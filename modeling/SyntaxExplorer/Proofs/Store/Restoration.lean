import SyntaxExplorer.Proofs.Store.Files
import SyntaxExplorer.Proofs.Store.SavedStates
import SyntaxExplorer.Proofs.View.Formats
import SyntaxExplorer.Proofs.Wire.PackedPrefixes

/-! A state that was saved is loaded again as it was, until it is removed or another state is saved in
its file.  What is done in one file leaves all others alone.
-/

namespace SyntaxExplorer

open Wire

-----------------------------------------------------------------------------------------
-- States of views as bytes
-----------------------------------------------------------------------------------------

/-- A state fits its format if its texts and its list of nodes have lengths of 32 bits and each of its
nodes fits.
-/
theorem ViewState.fits_iff {state : ViewState}
    : ViewState.format.Fits state
      ↔ (Text.bytes state.document).length < 2 ^ 32
        ∧ (state.nodes.length < 2 ^ 32 ∧ ∀ node ∈ state.nodes, FlatNode.format.Fits node)
        ∧ (Text.bytes state.queryText).length < 2 ^ 32 := by
  simp [Format.Fits, ViewState.format, Fields.ofList, Schema.fits, Fields.fits, Format.list]

/-- A state that fits its format is read back from its bytes, whatever stands behind them. -/
theorem ViewState.unpack?_pack_append {state : ViewState} (fits : ViewState.format.Fits state)
    (rest : List UInt8)
    : ViewState.format.unpack? (ViewState.format.pack state ++ rest) = some state := by
  have distinct : ViewState.format.schema.isDistinct = true := by decide
  have shallow : ViewState.format.schema.levels < Pack.levelLimit := by decide
  exact Format.unpack?_pack_append ViewState.format_isExact distinct shallow fits rest

/-- A state that fits its format is read back from the bytes that are kept of it. -/
theorem ViewState.unpack?_pack {state : ViewState} (fits : ViewState.format.Fits state)
    : ViewState.format.unpack? (ViewState.format.pack state) = some state := by
  have whole := ViewState.unpack?_pack_append fits []
  rwa [List.append_nil] at whole

/-- Nothing is read back from the first bytes of a state that fits its format. -/
theorem ViewState.unpack?_take_pack {state : ViewState} (fits : ViewState.format.Fits state)
    {room : Nat} (short : room < (ViewState.format.pack state).length)
    : ViewState.format.unpack? ((ViewState.format.pack state).take room) = none := by
  have distinct : ViewState.format.schema.isDistinct = true := by decide
  exact Format.unpack?_take_pack distinct fits short

-----------------------------------------------------------------------------------------
-- Saved states
-----------------------------------------------------------------------------------------

namespace SessionStore

variable {store : SessionStore} {uri name : String} {state : ViewState}

/-- A store has a state of a document if the document's file decodes to it. -/
structure Has (store : SessionStore) (uri : String) (state : ViewState) : Prop where
  decodes
    : ∃ bytes,
        store.find? (fileOf uri) = some (.file bytes)
        ∧ ViewState.format.unpack? bytes = some state
  own : state.document = uri

/-- Loading a state that a store has leaves the store alone. -/
theorem Has.load (has : store.Has uri state) : store.load uri = (.ok (some state), store) := by
  obtain ⟨⟨bytes, found, decoded⟩, own⟩ := has
  have contains : store.contains (fileOf uri) = true := by
    rw [Folder.contains, found, Option.isSome_some]
  simp only [SessionStore.load, contains, if_true, Folder.read_eq_ok_iff.mpr found, decoded,
    if_pos own]

/-- What is loaded for a document is a state that the store has, and the store is left alone. -/
theorem has_of_load {next : SessionStore} (loaded : store.load uri = (.ok (some state), next))
    : store.Has uri state ∧ next = store := by
  simp only [SessionStore.load] at loaded
  split at loaded
  · cases read : store.read (fileOf uri) with
    | error fault =>
        rw [read] at loaded
        cases loaded
    | ok bytes =>
        simp only [read] at loaded
        cases decoded : ViewState.format.unpack? bytes with
        | none =>
            rw [decoded] at loaded
            cases loaded
        | some saved =>
            simp only [decoded] at loaded
            split at loaded
            · rename_i own
              cases loaded
              exact ⟨⟨⟨bytes, Folder.read_eq_ok_iff.mp read, decoded⟩, own⟩, rfl⟩
            · cases loaded
  · cases loaded

/-- What is loaded for a document is what the store has of it. -/
theorem load_eq_some_iff : (store.load uri).1 = .ok (some state) ↔ store.Has uri state := by
  constructor
  · intro loaded
    exact (has_of_load (Prod.ext loaded rfl)).1
  · intro has
    rw [has.load]

/-- What stores have of a document is the same if its file is. -/
theorem has_congr {next : SessionStore}
    (same : next.find? (fileOf uri) = store.find? (fileOf uri))
    : next.Has uri state ↔ store.Has uri state := by
  constructor
  · rintro ⟨⟨bytes, found, decoded⟩, own⟩
    exact ⟨⟨bytes, same ▸ found, decoded⟩, own⟩
  · rintro ⟨⟨bytes, found, decoded⟩, own⟩
    exact ⟨⟨bytes, same.trans found, decoded⟩, own⟩

/-- Removing a state that a store has leaves none. -/
theorem Has.remove (has : store.Has uri state)
    : (SessionStore.remove store uri).2.find? (fileOf uri) = none := by
  obtain ⟨⟨bytes, found, _⟩, _⟩ := has
  obtain ⟨next, removed, none⟩ := Folder.remove_of_file found
  have contains : store.contains (fileOf uri) = true := by
    rw [Folder.contains, found, Option.isSome_some]
  simp only [SessionStore.remove, contains, if_true, removed, none]

/-- A store that saved a state did not refuse it. -/
theorem not_refuses_of_save {file : String} (saved : (store.save state).1 = .ok file)
    : ¬ store.Refuses state.document := by
  intro refuses
  obtain ⟨fault, refused⟩ := save_of_refuses refuses
  rw [refused] at saved
  cases saved

/-- The file that a state was saved in holds the bytes of the state. -/
theorem read_of_save {file : String} (saved : (store.save state).1 = .ok file)
    : (store.save state).2.read file = .ok (ViewState.format.pack state) := by
  have whole := save_of_not_refuses (not_refuses_of_save saved)
  rw [whole] at saved ⊢
  obtain rfl := Except.ok.inj saved
  exact Folder.read_put _ _ _

/-- A state that fits its format is there once it was saved. -/
theorem has_of_save {file : String} (fits : ViewState.format.Fits state)
    (saved : (store.save state).1 = .ok file)
    : (store.save state).2.Has state.document state := by
  rw [save_of_not_refuses (not_refuses_of_save saved)]
  exact ⟨⟨_, Folder.find?_put_self _ _ _, ViewState.unpack?_pack fits⟩, rfl⟩

/-- Saving a state leaves the files of other documents alone, whatever goes wrong. -/
theorem find?_save_of_ne {mishap : Option SaveMishap} (different : name ≠ fileOf state.document)
    : (store.save state mishap).2.find? name = store.find? name :=
  (store.save_outcome state mishap).find?_of_ne different

/-- Loading leaves a store as it is or removes the file. -/
theorem load_leaves (store : SessionStore) (uri : String)
    : (store.load uri).2 = store
      ∨ Folder.remove store (fileOf uri) = .ok (store.load uri).2 := by
  simp only [SessionStore.load]
  split
  · split
    · exact .inl rfl
    · split
      · exact .inl rfl
      · cases removed : Folder.remove store (fileOf uri) with
        | error fault => exact .inl rfl
        | ok next => exact .inr rfl
  · exact .inl rfl

/-- Removing leaves a store as it is or removes the file. -/
theorem remove_leaves (store : SessionStore) (uri : String)
    : (SessionStore.remove store uri).2 = store
      ∨ Folder.remove store (fileOf uri) = .ok (SessionStore.remove store uri).2 := by
  simp only [SessionStore.remove]
  split
  · cases removed : Folder.remove store (fileOf uri) with
    | error fault => exact .inl rfl
    | ok next => exact .inr rfl
  · exact .inl rfl

/-- Loading a state leaves the files of other documents alone. -/
theorem find?_load_of_ne (different : name ≠ fileOf uri)
    : (store.load uri).2.find? name = store.find? name := by
  rcases store.load_leaves uri with same | removed
  · rw [same]
  · exact Folder.find?_remove_of_ne different removed

/-- Removing a state leaves the files of other documents alone. -/
theorem find?_remove_of_ne (different : name ≠ fileOf uri)
    : (SessionStore.remove store uri).2.find? name = store.find? name := by
  rcases store.remove_leaves uri with same | removed
  · rw [same]
  · exact Folder.find?_remove_of_ne different removed

end SessionStore

end SyntaxExplorer
