import SyntaxExplorer.Proofs.Session.CommentLines
import SyntaxExplorer.Proofs.Text.Batches

/-! A batch of changes is taken over as a whole or not at all.  The edits of a batch whose changes
apply are valid when they are looked at again, so the changes alone decide.
-/

namespace SyntaxExplorer.Session

open Text TextChange

variable {Tree Query : Type}

/-- What an answer and a next session make of a batch.  It is refused with its first fault, and then
nothing at all has changed; else the text is where the batch leads, which is the old one with all
spans of the batch replaced in turn, one generation later if the batch is not empty.
-/
structure TakesWhole {α : Type} (session : Session Tree Query) (changes : List TextChange)
    (answer : Except Failure α) (next : Session Tree Query)
    : Prop where
  refused
    : ∀ failure,
        answer = .error failure
        ↔ ∃ fault, FailsFirst changes session.text fault ∧ failure = .ofEdit fault
  untouched : ∀ failure, answer = .error failure → next = session
  accepted : (∃ value, answer = .ok value) ↔ ∃ text, Lead changes session.text text
  led : ∀ value, answer = .ok value → Lead changes session.text next.text
  spliced
    : ∀ value, answer = .ok value → bytes next.text = changes.foldl splice (bytes session.text)
  counted
    : ∀ value, answer = .ok value → changes ≠ [] → next.generation = session.generation + 1

/-- A failure with the fault of a batch is its refusal, if the session is the one from before. -/
theorem TakesWhole.of_error {α : Type} {session : Session Tree Query}
    {changes : List TextChange} {fault : EditFault}
    (failed : applyEach changes session.text = .error fault)
    : session.TakesWhole changes (.error (.ofEdit fault) : Except Failure α) session where
  refused failure := by
    have first := applyEach_eq_error_iff.mp failed
    constructor
    · rintro ⟨⟩
      exact ⟨fault, first, rfl⟩
    · rintro ⟨other, again, rfl⟩
      cases failed.symm.trans (applyEach_eq_error_iff.mpr again)
      rfl
  untouched _ _ := rfl
  accepted := by
    constructor
    · rintro ⟨_, ⟨⟩⟩
    · rintro ⟨text, lead⟩
      obtain ⟨edits, applied⟩ := applyEach_ok_iff_lead.mpr lead
      cases failed.symm.trans applied
  led _ := by rintro ⟨⟩
  spliced _ := by rintro ⟨⟩
  counted _ := by rintro ⟨⟩

/-- An answer without a failure takes a batch over, if the session has the text that the batch leads
to and counts it.
-/
theorem TakesWhole.of_ok {α : Type} {session next : Session Tree Query}
    {changes : List TextChange} {edits : List TreeEdit} (value : α)
    (applied : applyEach changes session.text = .ok (edits, next.text))
    (counted : changes ≠ [] → next.generation = session.generation + 1)
    : session.TakesWhole changes (.ok value) next where
  refused failure := by
    constructor
    · rintro ⟨⟩
    · rintro ⟨fault, first, _⟩
      cases applied.symm.trans (applyEach_eq_error_iff.mpr first)
  untouched _ := by rintro ⟨⟩
  accepted := by
    have lead := applyEach_ok_iff_lead.mp ⟨edits, applied⟩
    exact ⟨fun _ => ⟨next.text, lead⟩, fun _ => ⟨value, rfl⟩⟩
  led _ _ := applyEach_ok_iff_lead.mp ⟨edits, applied⟩
  spliced _ _ := (applyEach_ok_iff_lead.mp ⟨edits, applied⟩).bytes_eq
  counted _ _ := counted

/-- A batch without changes is taken over where nothing happens. -/
theorem TakesWhole.of_nil {α : Type} (session : Session Tree Query) (value : α)
    : session.TakesWhole [] (.ok value) session :=
  have applied : applyEach [] session.text = .ok ([], session.text) := rfl
  .of_ok value applied fun some => (some rfl).elim

/-- Applying a batch takes it over as a whole. -/
theorem applyChanges_takesWhole (session : Session Tree Query) (changes : List TextChange)
    : session.TakesWhole changes (session.applyChanges changes).1
        (session.applyChanges changes).2 := by
  by_cases none : changes = []
  · subst none
    exact .of_nil session ()
  · cases applied : applyEach changes session.text with
    | error fault =>
        rw [applyChanges_of_error none applied]
        exact .of_error applied
    | ok result =>
        obtain ⟨edits, text⟩ := result
        rw [applyChanges_of_ok none applied]
        exact .of_ok () applied fun _ => rfl

/-- Showing and searching what a batch led to leaves alone its text and generation. -/
theorem changeText_takesWhole (session : Session Tree Query) (changes : List TextChange)
    : session.TakesWhole changes (session.changeText changes).1
        (session.changeText changes).2 := by
  have outcome := session.changeText_outcome changes
  generalize session.changeText changes = result at outcome ⊢
  obtain ⟨answer, next⟩ := result
  cases outcome with
  | empty none =>
      subst none
      exact .of_nil _ []
  | rejected _ failed => exact .of_error failed
  | @accepted edits text _ applied =>
      obtain ⟨queries, colors, captures, same⟩ :=
        (session.goOver edits text).refresh.2.requery_keeps
      simp only [same]
      exact .of_ok _ applied fun _ => rfl

/-- Whether changes are applied or reported by the editor, a batch of them fails exactly if one does
not suit the text that those before it lead to.  Then the failure says what is wrong with the first
such change, and text, tree, generation, view, captures, colors and what was published are those
from before.  Else the text is the old one with all spans replaced, each in the text that the change
before it left, and a batch that is not empty counts as one generation.
-/
theorem batches_areAtomic (session : Session Tree Query) (changes : List TextChange)
    : session.TakesWhole changes (session.applyChanges changes).1
        (session.applyChanges changes).2
      ∧ session.TakesWhole changes (session.handleEvent (.textChanged changes)).1
          (session.handleEvent (.textChanged changes)).2 :=
  ⟨session.applyChanges_takesWhole changes, session.changeText_takesWhole changes⟩

/-- Of three changes, the second one suits the text only behind the first, and the last one cuts the
character that the second has put in.
-/
theorem batches_areAtomic_lateFault
    : let changes : List TextChange :=
        [⟨⟨0, 3⟩, ⟨0, 3⟩, 3, 0, "b\n"⟩, ⟨⟨0, 4⟩, ⟨1, 0⟩, 4, 1, "é"⟩, ⟨⟨0, 5⟩, ⟨0, 6⟩, 5, 1, ""⟩]
      let failure := Failure.edit "range 5..6 splits a character"
      Lead (changes.take 2) CommentLines.session.text "//abé"
      ∧ CommentLines.session.applyChanges changes = (.error failure, CommentLines.session)
      ∧ CommentLines.session.handleEvent (.textChanged changes)
        = (.error failure, CommentLines.session) := by
  intro changes failure
  have second : Lead (changes.tail.take 1) "//ab\n" "//abé" :=
    .cons (by decide) (by decide) (.nil _)
  have lead : Lead (changes.take 2) CommentLines.session.text "//abé" :=
    .cons (by decide) (by decide) second
  have first : FailsFirst changes CommentLines.session.text (.rangeSplitsCharacter 5 6) := by
    refine ⟨changes.take 2, _, [], "//abé", rfl, lead, .splits ?_ ?_ (.inl ?_)⟩
    all_goals decide
  obtain ⟨applied, reported⟩ := batches_areAtomic CommentLines.session changes
  have refused := (applied.refused failure).mpr ⟨_, first, rfl⟩
  have told := (reported.refused failure).mpr ⟨_, first, rfl⟩
  exact ⟨lead, Prod.ext refused (applied.untouched failure refused),
    Prod.ext told (reported.untouched failure told)⟩

end SyntaxExplorer.Session
