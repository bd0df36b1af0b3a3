import SyntaxExplorer.Session.QueryRunner

/-! The colors of captures follow the order in which their names are first seen.
Names are only ever added at the end, so the place of a name, and with it its color, stays.
-/

namespace SyntaxExplorer

/-- Some captures are colored by the names that an assigner holds: these are their distinct names
in the order in which they are first seen, and each capture has the color at the place of its name,
the palette starting over at its end.
-/
structure Colored (captures : List Capture) (colors : ColorAssigner) : Prop where
  names : colors.names = (captures.map (·.name)).eraseDups
  shades
    : ∀ capture ∈ captures,
        ∃ index,
          colors.names[index]? = some capture.name
          ∧ palette[index % 13]? = some capture.color

/-- Nothing is colored by no names. -/
theorem Colored.nil : Colored [] {} :=
  ⟨rfl, by simp⟩

namespace ColorAssigner

/-- Every place has a color of the palette. -/
theorem palette_getElem?_mod (index : Nat) : palette[index % 13]? = some (colorAt index) := by
  have within : index % 13 < palette.length := Nat.mod_lt index (by decide)
  rw [colorAt, show palette.length = 13 from rfl, List.getElem?_eq_getElem within]
  rfl

/-- A name gets the color of its place, which is that of its first occurrence: one that is not
known yet is added at the end.
-/
theorem assign_spec (colors : ColorAssigner) (name : String)
    : ∃ index,
        (colors.assign name).2.names[index]? = some name
        ∧ (colors.assign name).1 = colorAt index
        ∧ (colors.assign name).2.names = colors.names ++ [name].removeAll colors.names := by
  rw [assign]
  cases found : colors.names.idxOf? name with
  | some index =>
      obtain ⟨within, here, _⟩ := List.idxOf?_eq_some_iff.mp found
      have known : name ∈ colors.names := by
        rw [← here]
        exact List.getElem_mem within
      refine ⟨index, ?_, rfl, ?_⟩
      · rw [List.getElem?_eq_getElem within, here]
      · simp [List.removeAll, known]
  | none =>
      have unknown : name ∉ colors.names := List.idxOf?_eq_none_iff.mp found
      refine ⟨colors.names.length, ?_, rfl, ?_⟩
      · simp
      · simp [List.removeAll, unknown]

/-- Names that are distinct stay so when one more gets its color. -/
theorem assign_distinct {colors : ColorAssigner}
    (distinct : colors.names.eraseDups = colors.names) (name : String)
    : (colors.assign name).2.names.eraseDups = (colors.assign name).2.names := by
  obtain ⟨_, _, _, names⟩ := colors.assign_spec name
  rw [names, List.eraseDups_append, distinct]
  by_cases known : name ∈ colors.names
  · simp [List.removeAll, known]
  · simp [List.removeAll, known, List.eraseDups_cons]

/-- A name that gets its color counts where it is first seen. -/
theorem eraseDups_assign_append (colors : ColorAssigner) (name : String) (rest : List String)
    : ((colors.assign name).2.names ++ rest).eraseDups
      = (colors.names ++ name :: rest).eraseDups := by
  obtain ⟨_, _, _, names⟩ := colors.assign_spec name
  rw [names]
  by_cases known : name ∈ colors.names
  · simp [List.eraseDups_append, List.removeAll, known]
  · simp [List.removeAll, known]

end ColorAssigner

namespace QueryRunner

/-- Findings that are colored from some names on add theirs to them, by induction over the
findings; a color that was given stays at its place, since the later names come behind it.
-/
theorem color_spec (source : String) (colors : ColorAssigner)
    (distinct : colors.names.eraseDups = colors.names) (findings : List Finding)
    : (color source colors findings).2.names
        = (colors.names ++ (color source colors findings).1.map (·.name)).eraseDups
      ∧ ∀ capture ∈ (color source colors findings).1,
          ∃ index,
            (color source colors findings).2.names[index]? = some capture.name
            ∧ palette[index % 13]? = some capture.color := by
  induction findings generalizing colors with
  | nil => simp [color, distinct]
  | cons finding rest ih =>
      have distinctNext := ColorAssigner.assign_distinct distinct finding.name
      obtain ⟨index, place, shade, _⟩ := colors.assign_spec finding.name
      obtain ⟨names, shades⟩ := ih _ distinctNext
      simp only [color, List.map_cons]
      refine ⟨names.trans (colors.eraseDups_assign_append finding.name _), ?_⟩
      intro capture member
      rcases List.mem_cons.mp member with first | later
      · subst first
        refine ⟨index, ?_, by rw [shade]; exact ColorAssigner.palette_getElem?_mod index⟩
        have within := (List.getElem?_eq_some_iff.mp place).1
        rw [names, List.eraseDups_append, distinctNext, List.getElem?_append_left within]
        exact place
      · exact shades capture later

/-- Findings that are colored anew are colored by their own names. -/
theorem color_colored (source : String) (findings : List Finding)
    : Colored (color source {} findings).1 (color source {} findings).2 := by
  obtain ⟨names, shades⟩ := color_spec source {} rfl findings
  exact ⟨names, shades⟩

end QueryRunner

end SyntaxExplorer
