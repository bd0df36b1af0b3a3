/-! Entries under names: what stands under a name once all entries of a name are taken out. -/

namespace SyntaxExplorer

variable {α : Type}

/-- What stands under a name is one of the entries. -/
theorem mem_of_lookup {entries : List (String × α)} {name : String} {value : α}
    (found : entries.lookup name = some value)
    : (name, value) ∈ entries := by
  obtain ⟨before, after, rfl, _⟩ := List.lookup_eq_some_iff.mp found
  simp

/-- Nothing stands under a name whose entries are taken out. -/
theorem lookup_filter_self (entries : List (String × α)) (name : String)
    : (entries.filter (·.1 != name)).lookup name = none := by
  rw [List.lookup_eq_none_iff]
  intro entry member
  have kept := (List.mem_filter.mp member).2
  rw [bne_iff_ne] at kept ⊢
  exact kept.symm

/-- Entries of other names are left alone, by induction over the entries. -/
theorem lookup_filter_of_ne (entries : List (String × α)) {name other : String}
    (different : other ≠ name)
    : (entries.filter (·.1 != name)).lookup other = entries.lookup other := by
  induction entries with
  | nil => rfl
  | cons entry rest ih =>
      obtain ⟨key, value⟩ := entry
      by_cases same : key = name
      · subst same
        have skipped : (other == key) = false := beq_eq_false_iff_ne.mpr different
        simpa [List.lookup_cons, skipped] using ih
      · have kept : (key != name) = true := bne_iff_ne.mpr same
        rw [List.filter_cons_of_pos (by exact kept), List.lookup_cons, List.lookup_cons, ih]

/-- What replaces the entries of a name stands under it, by induction over the entries. -/
theorem lookup_replace_self {entries : List (String × α)} {name : String} {value : α}
    (found : entries.lookup name = some value) (next : α)
    : (entries.map fun (key, other) =>
        if key == name then (key, next) else (key, other)).lookup name
      = some next := by
  induction entries with
  | nil => cases found
  | cons entry rest ih =>
      obtain ⟨key, other⟩ := entry
      by_cases same : key = name
      · subst same
        simp
      · have skipped : (name == key) = false := beq_eq_false_iff_ne.mpr (Ne.symm same)
        rw [List.lookup_cons, skipped] at found
        simpa [same, List.lookup_cons, skipped] using ih found

/-- Replacing the entries of a name leaves those of others alone, by induction over the entries. -/
theorem lookup_replace_of_ne (entries : List (String × α)) {name other : String}
    (different : other ≠ name) (next : α)
    : (entries.map fun (key, value) =>
        if key == name then (key, next) else (key, value)).lookup other
      = entries.lookup other := by
  induction entries with
  | nil => rfl
  | cons entry rest ih =>
      obtain ⟨key, value⟩ := entry
      by_cases same : key = name
      · subst same
        have skipped : (other == key) = false := beq_eq_false_iff_ne.mpr different
        simpa [List.lookup_cons, skipped] using ih
      · simp only [List.map_cons, beq_iff_eq, if_neg same, List.lookup_cons]
        simp only [beq_iff_eq] at ih
        rw [ih]

end SyntaxExplorer
