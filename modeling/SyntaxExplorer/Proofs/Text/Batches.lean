import SyntaxExplorer.Proofs.Text.EditPositions

/-! Batches of changes, said by the bytes of the texts alone: where a batch leads, and at which of its
changes it fails.
-/

namespace SyntaxExplorer

open Text

/-- A computation in two steps fails where either step does. -/
theorem bind_eq_error_iff {ε α β : Type} {first : Except ε α} {next : α → Except ε β} {fault : ε}
    : first >>= next = .error fault
      ↔ first = .error fault ∨ ∃ value, first = .ok value ∧ next value = .error fault := by
  cases first with
  | error other => simp [bind, Except.bind]
  | ok value => simp [bind, Except.bind]

namespace TextChange

/-- Changes lead from one text to another: each suits the text that those before it left, and
leaves that text with its span replaced.
-/
inductive Lead : List TextChange → String → String → Prop
  | nil (text : String) : Lead [] text text
  | cons {change rest text next last} (suits : Suits change text)
    (spliced : bytes next = splice (bytes text) change) (later : Lead rest next last)
    : Lead (change :: rest) text last

/-- A fault is the first one of a batch: it is that of a change in the text that the changes
before it lead to.
-/
def FailsFirst (changes : List TextChange) (text : String) (fault : EditFault) : Prop :=
  ∃ earlier change later left,
    changes = earlier ++ change :: later
    ∧ Lead earlier text left
    ∧ change.HasFault left fault

/-- Changes lead to the text with all their spans replaced, one after another. -/
theorem Lead.bytes_eq {changes : List TextChange} {text last : String}
    (lead : Lead changes text last)
    : bytes last = changes.foldl splice (bytes text) := by
  induction lead with
  | nil text => rfl
  | cons _ spliced _ ih => rw [List.foldl_cons, ← spliced, ih]

/-- A change applies exactly if it suits the text, and leaves it with its span replaced. -/
theorem apply_ok_iff {change : TextChange} {text next : String}
    : (∃ edit, change.apply text = .ok (edit, next))
      ↔ change.Suits text ∧ bytes next = splice (bytes text) change := by
  constructor
  · rintro ⟨edit, applied⟩
    exact ⟨applies_iff.mp ⟨edit, next, applied⟩, bytes_of_apply applied⟩
  · rintro ⟨suits, spliced⟩
    obtain ⟨edit, other, applied⟩ := applies_iff.mpr suits
    obtain rfl : other = next := bytes_inj ((bytes_of_apply applied).trans spliced.symm)
    exact ⟨edit, applied⟩

/-- A batch applies exactly if its changes lead somewhere, which is where it goes, by induction
over the batch.
-/
theorem applyEach_ok_iff_lead {changes : List TextChange} {text last : String}
    : (∃ edits, applyEach changes text = .ok (edits, last)) ↔ Lead changes text last := by
  constructor
  · rintro ⟨edits, applied⟩
    induction changes generalizing text edits with
    | nil =>
        cases applied
        exact .nil last
    | cons change rest ih =>
        obtain ⟨edit, next, later, first, others, _⟩ := applyEach_cons_eq_ok_iff.mp applied
        obtain ⟨suits, spliced⟩ := apply_ok_iff.mp ⟨edit, first⟩
        exact .cons suits spliced (ih later others)
  · intro lead
    induction lead with
    | nil text => exact ⟨[], rfl⟩
    | cons suits spliced _ ih =>
        obtain ⟨edit, first⟩ := apply_ok_iff.mpr ⟨suits, spliced⟩
        obtain ⟨edits, others⟩ := ih
        exact ⟨_, applyEach_cons_eq_ok_iff.mpr ⟨edit, _, edits, first, others, rfl⟩⟩

/-- A batch fails where its first change does, or where that applies and the others fail on what
it leaves.
-/
theorem applyEach_cons_eq_error_iff {change : TextChange} {rest : List TextChange}
    {text : String} {fault : EditFault}
    : applyEach (change :: rest) text = .error fault
      ↔ change.apply text = .error fault
        ∨ ∃ edit next,
            change.apply text = .ok (edit, next) ∧ applyEach rest next = .error fault := by
  simp only [applyEach, bind_eq_error_iff, Prod.exists]
  constructor
  · rintro (here | ⟨edit, next, first, others | ⟨_, _, _, ⟨⟩⟩⟩)
    · exact .inl here
    · exact .inr ⟨edit, next, first, others⟩
  · rintro (here | ⟨edit, next, first, others⟩)
    · exact .inl here
    · exact .inr ⟨edit, next, first, .inl others⟩

/-- A batch fails exactly with its first fault, by induction over the batch: a change that suits
the text becomes part of what leads to the fault.
-/
theorem applyEach_eq_error_iff {changes : List TextChange} {text : String} {fault : EditFault}
    : applyEach changes text = .error fault ↔ FailsFirst changes text fault := by
  constructor
  · intro failed
    induction changes generalizing text with
    | nil => cases failed
    | cons change rest ih =>
        rcases applyEach_cons_eq_error_iff.mp failed with here | ⟨edit, next, first, others⟩
        · exact ⟨[], change, rest, text, rfl, .nil text, apply_eq_error_iff.mp here⟩
        · obtain ⟨suits, spliced⟩ := apply_ok_iff.mp ⟨edit, first⟩
          obtain ⟨earlier, culprit, later, left, rfl, lead, wrong⟩ := ih others
          exact ⟨change :: earlier, culprit, later, left, rfl, .cons suits spliced lead, wrong⟩
  · rintro ⟨earlier, culprit, later, left, rfl, lead, wrong⟩
    induction lead with
    | nil text => exact applyEach_cons_eq_error_iff.mpr (.inl wrong.apply)
    | cons suits spliced _ ih =>
        obtain ⟨edit, first⟩ := apply_ok_iff.mpr ⟨suits, spliced⟩
        exact applyEach_cons_eq_error_iff.mpr (.inr ⟨edit, _, first, ih wrong⟩)

end TextChange

end SyntaxExplorer
