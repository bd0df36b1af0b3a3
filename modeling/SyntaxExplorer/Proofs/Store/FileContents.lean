import SyntaxExplorer.Proofs.Store.LastSaves

/-! The file of a document may hold any bytes: a state of the document, a state of another one that
has the same file, or what is no state at all.  Loading tells the three apart, and only what is no
state is removed.
-/

namespace SyntaxExplorer.SessionStore

variable {store next : SessionStore} {uri : String} {bytes : List UInt8}

-----------------------------------------------------------------------------------------
-- What comes of loading a file
-----------------------------------------------------------------------------------------

/-- What comes of loading a file for a document: a state of the document is handed out, a state of
another one is left where it is, and what is no state is removed.
-/
inductive LoadOutcome (store : SessionStore) (uri : String) (bytes : List UInt8)
    : Option ViewState → SessionStore → Prop
  | own {state} (decodes : ViewState.format.unpack? bytes = some state) (own : state.document = uri)
    : LoadOutcome store uri bytes (some state) store
  | foreign {state} (decodes : ViewState.format.unpack? bytes = some state)
    (foreign : state.document ≠ uri)
    : LoadOutcome store uri bytes none store
  | discarded {remaining : SessionStore} (unreadable : ViewState.format.unpack? bytes = none)
    (removed : Folder.remove store (fileOf uri) = .ok remaining)
    : LoadOutcome store uri bytes none remaining

namespace LoadOutcome

variable {answer : Option ViewState}

/-- The file is kept as it is if its bytes are a state, and else nothing is left of it. -/
theorem find?_eq (outcome : LoadOutcome store uri bytes answer next)
    (found : store.find? (fileOf uri) = some (.file bytes))
    : next.find? (fileOf uri)
      = (ViewState.format.unpack? bytes).map fun _ => .file bytes := by
  cases outcome with
  | own decodes _ | foreign decodes _ => rw [decodes, found, Option.map_some]
  | discarded unreadable removed =>
      rw [unreadable, Folder.find?_remove_self removed, Option.map_none]

/-- Loading once more gives the same answer and changes nothing. -/
theorem load (outcome : LoadOutcome store uri bytes answer next)
    (loaded : store.load uri = (.ok answer, next))
    : next.load uri = (.ok answer, next) := by
  cases outcome with
  | own | foreign => exact loaded
  | discarded unreadable removed => exact load_of_free (Folder.find?_remove_self removed)

end LoadOutcome

-----------------------------------------------------------------------------------------
-- Saving after any calls
-----------------------------------------------------------------------------------------

end SyntaxExplorer.SessionStore
