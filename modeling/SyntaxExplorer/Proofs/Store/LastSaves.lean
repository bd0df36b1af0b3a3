import Mathlib.Data.List.Induction
import Mathlib.Data.Set.Function
import SyntaxExplorer.Proofs.Histories
import SyntaxExplorer.Proofs.Store.FileNames
import SyntaxExplorer.Proofs.Store.Restoration

/-! A store is a map from documents to the states that were saved last.
What a call does to the files is what it does to the map, as long as no two documents share a digest;
so the answers of a store after any calls are those of the map.
-/

namespace SyntaxExplorer

-----------------------------------------------------------------------------------------
-- Calls, and what they do to a map
-----------------------------------------------------------------------------------------

/-- A call of a store. -/
inductive StoreCall
  | save (state : ViewState)
  | load (uri : String)
  | remove (uri : String)

namespace StoreCall

/-- The document that a call is about. -/
def uri : StoreCall → String
  | save state => state.document
  | load uri | remove uri => uri

/-- A call that takes away what was kept for a document before. -/
def Replaces (uri : String) : StoreCall → Prop
  | save state => state.document = uri
  | load _ => False
  | remove removed => removed = uri

/-- A map from documents to states after a call. -/
def update (kept : String → Option ViewState) : StoreCall → String → Option ViewState
  | save state => Function.update kept state.document (some state)
  | load _ => kept
  | remove uri => Function.update kept uri none

end StoreCall

/-- A state of a document was saved, and since then nothing took it away. -/
def LastSaved (calls : List StoreCall) (uri : String) (state : ViewState) : Prop :=
  Since (fun _ call => call = .save state ∧ state.document = uri) (StoreCall.Replaces uri) calls

/-- A map has a state after a call that saved it, or if it had it before a call that did not take it
away.
-/
theorem StoreCall.update_eq_some_iff {kept : String → Option ViewState} {call : StoreCall}
    {uri : String} {state : ViewState}
    : call.update kept uri = some state
      ↔ (call = .save state ∧ state.document = uri)
        ∨ (¬ call.Replaces uri ∧ kept uri = some state) := by
  cases call with
  | save saved =>
      by_cases same : saved.document = uri
      · have own (eq : saved = state) : state.document = uri := eq ▸ same
        simp only [update, ← same, Function.update_self, Replaces, Option.some.injEq, save.injEq,
          not_true_eq_false, false_and, or_false]
        exact ⟨fun eq => ⟨eq, (own eq).trans same.symm⟩, fun cases => cases.1⟩
      · have another (eq : saved = state) : state.document ≠ uri := eq ▸ same
        simp only [update, Function.update_of_ne (Ne.symm same), Replaces, save.injEq, same,
          not_false_eq_true, true_and]
        exact ⟨Or.inr, fun cases => cases.resolve_left fun saves => another saves.1 saves.2⟩
  | load other => simp [update, Replaces]
  | remove removed =>
      by_cases same : removed = uri
      · simp [update, Replaces, same]
      · simp [update, Replaces, same, Function.update_of_ne (Ne.symm same)]

/-- A call about another document changes nothing for this one. -/
theorem StoreCall.update_of_ne {kept : String → Option ViewState} {call : StoreCall} {uri : String}
    (elsewhere : call.uri ≠ uri)
    : call.update kept uri = kept uri := by
  cases call with
  | save saved => exact Function.update_of_ne (Ne.symm elsewhere) _ kept
  | load other => rfl
  | remove removed => exact Function.update_of_ne (Ne.symm elsewhere) _ kept

/-- What calls leave of a document follows from what there was of it, by induction over the calls. -/
theorem foldl_update_congr {kept other : String → Option ViewState} {uri : String}
    (same : kept uri = other uri) (calls : List StoreCall)
    : calls.foldl StoreCall.update kept uri = calls.foldl StoreCall.update other uri := by
  induction calls generalizing kept other with
  | nil => exact same
  | cons call rest ih =>
      apply ih
      by_cases here : call.uri = uri
      · subst here
        cases call with
        | save saved => simp [StoreCall.update, StoreCall.uri]
        | load loaded => exact same
        | remove removed => simp [StoreCall.update, StoreCall.uri]
      · rw [StoreCall.update_of_ne here, StoreCall.update_of_ne here, same]

/-- After any calls a map has the states that were saved last, by induction over the calls. -/
theorem foldl_update_eq_some_iff {calls : List StoreCall} {uri : String} {state : ViewState}
    : calls.foldl StoreCall.update (fun _ => none) uri = some state ↔ LastSaved calls uri state := by
  induction calls using List.reverseRecOn with
  | nil =>
      have nothing : ¬ LastSaved [] uri state := not_since_nil
      simp [nothing]
  | append_singleton calls call ih =>
      rw [List.foldl_append, List.foldl_cons, List.foldl_nil, StoreCall.update_eq_some_iff, LastSaved,
        since_concat_iff, ih, LastSaved]

-----------------------------------------------------------------------------------------
-- One call
-----------------------------------------------------------------------------------------

namespace SessionStore

variable {store : SessionStore} {uri other : String} {uris : Set String} {state : ViewState}
variable {kept : String → Option ViewState}

/-- What a call leaves of a store. -/
def handle (store : SessionStore) : StoreCall → SessionStore
  | .save state => (store.save state).2
  | .load uri => (store.load uri).2
  | .remove uri => (remove store uri).2

/-- A store has of some documents what a map has, each state in the file of its document. -/
structure Keeps (store : SessionStore) (uris : Set String) (kept : String → Option ViewState)
    : Prop where
  usable : store ≠ .blocked
  files
    : ∀ uri ∈ uris,
        store.find? (fileOf uri)
        = (kept uri).map fun state => .file (ViewState.format.pack state)
  valid
    : ∀ uri state,
        kept uri = some state → state.document = uri ∧ ViewState.format.Fits state

/-- Nothing is loaded for a document without a file. -/
theorem load_of_free (free : store.find? (fileOf uri) = none) : store.load uri = (.ok none, store) := by
  simp [SessionStore.load, Folder.contains, free]

/-- Nothing is removed for a document without a file. -/
theorem remove_of_free (free : store.find? (fileOf uri) = none)
    : remove store uri = (.ok false, store) := by
  simp [SessionStore.remove, Folder.contains, free]

/-- A file is removed, and the folder stays a folder. -/
theorem remove_of_file {bytes : List UInt8} (found : store.find? (fileOf uri) = some (.file bytes))
    : ∃ next,
        remove store uri = (.ok true, next)
        ∧ next.find? (fileOf uri) = none
        ∧ next ≠ .blocked := by
  obtain ⟨next, removed, free⟩ := Folder.remove_of_file found
  have contains : store.contains (fileOf uri) = true := by
    rw [Folder.contains, found, Option.isSome_some]
  refine ⟨next, by simp only [SessionStore.remove, contains, if_true, removed], free, ?_⟩
  obtain ⟨entries, _, rfl⟩ := Folder.holding_of_remove removed
  intro blocked
  cases blocked

namespace Keeps

/-- What a map has of a document is loaded for it, and the store is left alone. -/
theorem load (keeps : store.Keeps uris kept) (member : uri ∈ uris)
    : store.load uri = (.ok (kept uri), store) := by
  have file := keeps.files uri member
  cases entry : kept uri with
  | none =>
      rw [entry] at file
      exact load_of_free file
  | some state =>
      rw [entry] at file
      obtain ⟨own, fits⟩ := keeps.valid uri state entry
      exact Has.load ⟨⟨_, file, ViewState.unpack?_pack fits⟩, own⟩

/-- Something is removed for a document exactly if the map has something of it. -/
theorem remove (keeps : store.Keeps uris kept) (member : uri ∈ uris)
    : (SessionStore.remove store uri).1 = .ok (kept uri).isSome
      ∧ (SessionStore.remove store uri).2.find? (fileOf uri) = none
      ∧ (SessionStore.remove store uri).2 ≠ .blocked := by
  have file := keeps.files uri member
  cases entry : kept uri with
  | none =>
      rw [entry] at file
      rw [remove_of_free file]
      exact ⟨rfl, file, keeps.usable⟩
  | some state =>
      rw [entry] at file
      obtain ⟨next, removed, free, usable⟩ := remove_of_file file
      rw [removed]
      exact ⟨rfl, free, usable⟩

/-- A state is saved in the file of its document. -/
theorem save (keeps : store.Keeps uris kept) (member : state.document ∈ uris)
    : store.save state
      = (.ok (fileOf state.document),
          .holding (Folder.put (fileOf state.document) (.file (ViewState.format.pack state))
            (Folder.entries store))) := by
  apply save_of_not_refuses
  intro refuses
  rcases refuses with blocked | folder
  · exact keeps.usable blocked
  · rw [keeps.files _ member] at folder
    cases entry : kept state.document with
    | none => simp [entry] at folder
    | some earlier => simp [entry] at folder

/-- Documents that are told apart by their digests have files of their own. -/
theorem fileOf_ne (apart : uris.InjOn digest) (member : uri ∈ uris) (others : other ∈ uris)
    (different : other ≠ uri)
    : fileOf other ≠ fileOf uri := by
  intro same
  exact different (apart others member (fileOf_eq_iff.mp same))

/-- A call leaves a store with what it leaves of the map. -/
theorem handle (keeps : store.Keeps uris kept) (apart : uris.InjOn digest) {call : StoreCall}
    (member : call.uri ∈ uris)
    (fits : ∀ state, call = .save state → ViewState.format.Fits state)
    : (store.handle call).Keeps uris (call.update kept) := by
  have valid uri state (has : call.update kept uri = some state)
      : state.document = uri ∧ ViewState.format.Fits state := by
    rcases StoreCall.update_eq_some_iff.mp has with ⟨saves, own⟩ | ⟨_, before⟩
    · exact ⟨own, fits state saves⟩
    · exact keeps.valid uri state before
  cases call with
  | save saved =>
      have done := keeps.save member
      refine ⟨?_, ?_, valid⟩
      · simp [SessionStore.handle, done]
      · intro uri others
        by_cases same : uri = saved.document
        · subst same
          simp only [SessionStore.handle, done, StoreCall.update, Function.update_self]
          exact Folder.find?_put_self _ _ _
        · have elsewhere := fileOf_ne apart member others same
          rw [SessionStore.handle, find?_save_of_ne elsewhere, keeps.files uri others]
          simp [StoreCall.update, Function.update_of_ne same]
  | load loaded =>
      have same : store.load loaded = (.ok (kept loaded), store) := keeps.load member
      rw [SessionStore.handle, same]
      exact keeps
  | remove removed =>
      have among : removed ∈ uris := member
      obtain ⟨_, free, usable⟩ := keeps.remove among
      refine ⟨usable, ?_, valid⟩
      intro uri others
      by_cases same : uri = removed
      · subst same
        rw [SessionStore.handle, free]
        simp [StoreCall.update]
      · have elsewhere : fileOf uri ≠ fileOf removed := fileOf_ne apart member others same
        rw [SessionStore.handle, find?_remove_of_ne elsewhere, keeps.files uri others]
        simp [StoreCall.update, Function.update_of_ne same]

end Keeps

-----------------------------------------------------------------------------------------
-- Any calls
-----------------------------------------------------------------------------------------

/-- What some calls leave of a store. -/
def after (store : SessionStore) (calls : List StoreCall) : SessionStore :=
  calls.foldl handle store

/-- Calls leave a store with what they leave of the map, by induction over the calls. -/
theorem Keeps.after (keeps : store.Keeps uris kept) (apart : uris.InjOn digest)
    {calls : List StoreCall} (members : ∀ call ∈ calls, call.uri ∈ uris)
    (fits : ∀ state, .save state ∈ calls → ViewState.format.Fits state)
    : (store.after calls).Keeps uris (calls.foldl StoreCall.update kept) := by
  induction calls generalizing store kept with
  | nil => exact keeps
  | cons call rest ih =>
      have next := keeps.handle apart (members call List.mem_cons_self)
        fun state saves => fits state (saves ▸ List.mem_cons_self)
      exact ih next (fun other member => members other (List.mem_cons_of_mem _ member))
        fun state member => fits state (List.mem_cons_of_mem _ member)

/-- A store that has nothing yet has what the empty map has. -/
theorem keeps_of_fresh (fresh : store = .missing ∨ store = .holding [])
    : store.Keeps uris fun _ => none := by
  refine ⟨?_, ?_, nofun⟩
  · rcases fresh with rfl | rfl <;> simp
  · intro uri _
    rcases fresh with rfl | rfl <;> rfl

/-- A store answers for a document as the latest state has it that some calls saved. -/
structure AnswersLast (store : SessionStore) (calls : List StoreCall) (uri : String) : Prop where
  loads
    : ∃ answer,
        (store.load uri).1 = .ok answer
        ∧ ∀ state, answer = some state ↔ LastSaved calls uri state
  removes
    : ∃ answer,
        (SessionStore.remove store uri).1 = .ok answer
        ∧ (answer = true ↔ ∃ state, LastSaved calls uri state)
  saves : ∀ state, state.document = uri → (store.save state).1 = .ok (fileOf uri)

/-- A store that has what the calls leave of the map answers as they have it. -/
theorem Keeps.answersLast {calls : List StoreCall}
    (keeps : store.Keeps uris (calls.foldl StoreCall.update fun _ => none)) (member : uri ∈ uris)
    : store.AnswersLast calls uri := by
  refine ⟨⟨_, congrArg (·.1) (keeps.load member), ?_⟩, ⟨_, (keeps.remove member).1, ?_⟩, ?_⟩
  · intro state
    exact foldl_update_eq_some_iff
  · rw [Option.isSome_iff_exists]
    exact exists_congr fun state => foldl_update_eq_some_iff
  · intro state own
    subst own
    exact congrArg (·.1) (keeps.save member)

/-- What is loaded for a document is always a state of it.  A new store, after any calls for documents
with digests of their own, loads for each the state that was saved last and not removed since, and
says by that whether there is something to remove; it saves all there is to save, if the lengths of
texts and lists are those of 32 bits that MessagePack can write.  Had any call not been made, the same
would be loaded for all documents but its own.
-/
theorem after_keepsLast (fresh : store = .missing ∨ store = .holding [])
    : (∀ (any : SessionStore) uri state,
        (any.load uri).1 = .ok (some state) → state.document = uri)
      ∧ ∀ (uris : Set String) (calls : List StoreCall),
          uris.InjOn digest
          → (∀ call ∈ calls, call.uri ∈ uris)
          → (∀ state, .save state ∈ calls → ViewState.format.Fits state)
          → ∀ uri ∈ uris,
              (store.after calls).AnswersLast calls uri
              ∧ ∀ earlier call later,
                  calls = earlier ++ call :: later
                  → call.uri ≠ uri
                  → ((store.after calls).load uri).1
                    = ((store.after (earlier ++ later)).load uri).1 := by
  refine ⟨fun any uri state loaded => document_of_load loaded, ?_⟩
  intro uris calls apart members fits uri member
  have start : store.Keeps uris fun _ => none := keeps_of_fresh fresh
  have keeps := start.after apart members fits
  refine ⟨keeps.answersLast member, ?_⟩
  intro earlier call later split elsewhere
  have within : ∀ other ∈ earlier ++ later, other ∈ calls := by
    intro other among
    rw [split]
    rcases List.mem_append.mp among with before | behind
    · exact List.mem_append_left _ before
    · exact List.mem_append_right _ (List.mem_cons_of_mem _ behind)
  have skipped : (store.after (earlier ++ later)).Keeps uris _ :=
    start.after apart (fun other among => members other (within other among))
      fun state among => fits state (within _ among)
  have same : calls.foldl StoreCall.update (fun _ => none) uri
      = (earlier ++ later).foldl StoreCall.update (fun _ => none) uri := by
    rw [split, List.foldl_append, List.foldl_append, List.foldl_cons]
    exact foldl_update_congr (StoreCall.update_of_ne elsewhere) later
  rw [keeps.load member, skipped.load member, same]

/-- Two states of one document are saved, and one of another between them that is removed again: the
second state of the first document is loaded, and there is nothing left of the other.
-/
theorem after_keepsLast_twoDocuments
    : let first : ViewState := { document := "file:///a.js", queryText := "(a)" }
      let second : ViewState := { document := "file:///a.js", queryText := "(b)" }
      let other : ViewState := { document := "file:///b.js", logEnabled := true }
      let store : SessionStore := .missing
      let calls : List StoreCall :=
        [.save first, .save other, .load "file:///a.js", .save second, .remove "file:///b.js"]
      ({"file:///a.js", "file:///b.js"} : Set String).InjOn digest
      ∧ ((store.after calls).load "file:///a.js").1 = .ok (some second)
      ∧ ((store.after calls).load "file:///b.js").1 = .ok none
      ∧ (SessionStore.remove (store.after calls) "file:///b.js").1 = .ok false := by
  intro first second other store calls
  have apart : ({"file:///a.js", "file:///b.js"} : Set String).InjOn digest := by
    have different : digest "file:///a.js" ≠ digest "file:///b.js" := by decide +kernel
    intro uri member another members same
    rcases member with rfl | rfl <;> rcases members with rfl | rfl
    · rfl
    · exact (different same).elim
    · exact (different same.symm).elim
    · rfl
  have members : ∀ call ∈ calls, call.uri ∈ ({"file:///a.js", "file:///b.js"} : Set String) := by
    simp [calls, StoreCall.uri, first, second, other]
  have fits : ∀ state, .save state ∈ calls → ViewState.format.Fits state := by
    intro state member
    simp only [calls, List.mem_cons, StoreCall.save.injEq, reduceCtorEq, List.not_mem_nil, or_false,
      false_or] at member
    rcases member with rfl | rfl | rfl <;> decide +kernel
  have fresh : store = .missing ∨ store = .holding [] := Or.inl rfl
  obtain ⟨_, answers⟩ := after_keepsLast fresh
  obtain ⟨⟨loaded, load, isLast⟩, _, _⟩ :=
    (answers _ calls apart members fits "file:///a.js" (by simp)).1
  obtain ⟨⟨free, loadOther, isLastOther⟩, ⟨removed, remove, wasThere⟩, _⟩ :=
    (answers _ calls apart members fits "file:///b.js" (by simp)).1
  have saved : LastSaved calls "file:///a.js" second := by
    refine ⟨[.save first, .save other, .load "file:///a.js"], .save second,
      [.remove "file:///b.js"], rfl, ⟨rfl, rfl⟩, ?_⟩
    simp [StoreCall.Replaces]
  have gone state : ¬ LastSaved calls "file:///b.js" state := by
    intro saved
    have kept := foldl_update_eq_some_iff.mpr saved
    simp [calls, StoreCall.update] at kept
  refine ⟨apart, ?_, ?_, ?_⟩
  · rw [load, (isLast second).mpr saved]
  · cases free with
    | none => exact loadOther
    | some state => exact (gone state ((isLastOther state).mp rfl)).elim
  · cases removed with
    | false => exact remove
    | true =>
        obtain ⟨state, saved⟩ := wasThere.mp rfl
        exact (gone state saved).elim

end SessionStore

end SyntaxExplorer
