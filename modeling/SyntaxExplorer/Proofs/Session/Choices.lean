import SyntaxExplorer.Proofs.Session.Runs

/-! What calls make of the choices of a view: its query and its toggles.  Only requests of the view
choose, and each of them sets one choice.
-/

namespace SyntaxExplorer

variable {Tree Query : Type}

/-- Two states have the same toggles and the same query. -/
structure ViewState.SameChoices (left right : ViewState) : Prop where
  queryText : left.queryText = right.queryText
  queryEnabled : left.queryEnabled = right.queryEnabled
  anonymousShown : left.anonymousShown = right.anonymousShown
  mappingEnabled : left.mappingEnabled = right.mappingEnabled
  logEnabled : left.logEnabled = right.logEnabled

namespace ViewState.SameChoices

/-- A state has its own choices. -/
theorem refl (state : ViewState) : state.SameChoices state := ⟨rfl, rfl, rfl, rfl, rfl⟩

/-- States with the choices of a third have the same choices. -/
theorem trans {first second third : ViewState} (left : first.SameChoices second)
    (right : second.SameChoices third)
    : first.SameChoices third where
  queryText := left.queryText.trans right.queryText
  queryEnabled := left.queryEnabled.trans right.queryEnabled
  anonymousShown := left.anonymousShown.trans right.anonymousShown
  mappingEnabled := left.mappingEnabled.trans right.mappingEnabled
  logEnabled := left.logEnabled.trans right.logEnabled

/-- Choices are the same in both directions. -/
theorem symm {first second : ViewState} (same : first.SameChoices second)
    : second.SameChoices first where
  queryText := same.queryText.symm
  queryEnabled := same.queryEnabled.symm
  anonymousShown := same.anonymousShown.symm
  mappingEnabled := same.mappingEnabled.symm
  logEnabled := same.logEnabled.symm

end ViewState.SameChoices

namespace Session

/-- The choices of a view after a call.  Only requests of the view choose. -/
def Call.choose (state : ViewState) : Call → ViewState
  | .request (.showAnonymousNodes value) => { state with anonymousShown := value }
  | .request (.enableNodeMapping value) => { state with mappingEnabled := value }
  | .request (.enableQuery value) => { state with queryEnabled := value }
  | .request (.queryNode text) => { state with queryText := text }
  | .request (.logOutput value) => { state with logEnabled := value }
  | .request (.selectEditorText _) | .event _ => state

/-- States with the same choices have the same after a call. -/
theorem Call.choose_sameChoices {left right : ViewState} (same : left.SameChoices right)
    (call : Call)
    : (call.choose left).SameChoices (call.choose right) := by
  obtain ⟨queryText, queryEnabled, anonymousShown, mappingEnabled, logEnabled⟩ := same
  cases call with
  | event => exact ⟨queryText, queryEnabled, anonymousShown, mappingEnabled, logEnabled⟩
  | request request => cases request <;> constructor <;> first | rfl | assumption

/-- A call makes of the choices what it says, whatever else it does. -/
theorem handle_chooses (session : Session Tree Query) (call : Call)
    : (session.handle call).2.state.SameChoices (call.choose session.state) := by
  cases call with
  | request request =>
      cases request with
      | showAnonymousNodes | enableNodeMapping | selectEditorText | logOutput =>
          exact ⟨rfl, rfl, rfl, rfl, rfl⟩
      | enableQuery value =>
          obtain ⟨queries, colors, captures, same⟩ :=
            runQuery_keeps { session with state := { session.state with queryEnabled := value } }
          simp only [handle, handleRequest, same]
          exact .refl _
      | queryNode text =>
          obtain ⟨queries, colors, captures, same⟩ :=
            runQuery_keeps { session with state := { session.state with queryText := text } }
          simp only [handle, handleRequest, same]
          exact .refl _
  | event event =>
      cases event with
      | textChanged changes =>
          have outcome := session.changeText_outcome changes
          simp only [handle, handleEvent]
          generalize session.changeText changes = result at outcome ⊢
          obtain ⟨answer, next⟩ := result
          cases outcome with
          | empty | rejected => exact .refl _
          | @accepted edits text _ _ =>
              obtain ⟨queries, colors, captures, same⟩ :=
                (session.goOver edits text).refresh.2.requery_keeps
              simp only [same]
              exact ⟨rfl, rfl, rfl, rfl, rfl⟩
      | selectionChanged | visibleRangeChanged => exact .refl _
      | viewStateChanged visible active =>
          simp only [handle, handleEvent]
          split <;> exact ⟨rfl, rfl, rfl, rfl, rfl⟩

/-- Sessions with the same choices have the same after the same calls, whatever their texts are, by
induction over the calls.
-/
theorem after_sameChoices {left right : Session Tree Query}
    (same : left.state.SameChoices right.state) (calls : List Call)
    : (left.after calls).state.SameChoices (right.after calls).state := by
  induction calls generalizing left right with
  | nil => exact same
  | cons call rest ih =>
      refine ih ?_
      exact ((left.handle_chooses call).trans (call.choose_sameChoices same)).trans
        (right.handle_chooses call).symm

end Session

end SyntaxExplorer
