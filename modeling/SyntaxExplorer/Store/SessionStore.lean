import SyntaxExplorer.Store.Digest
import SyntaxExplorer.Store.Folder
import SyntaxExplorer.Store.Pack
import SyntaxExplorer.View.Formats
/-!
The states of suspended views, one file for each document.
-/

namespace SyntaxExplorer

/-- The folder of a store. -/
abbrev SessionStore := Folder (List UInt8)

namespace SessionStore

/-- The name of the file of a document. -/
def fileOf (uri : String) : String := Digest.ofText uri ++ ".state"

/-- What may go wrong while a state is saved, beside what stands in its way: the folder cannot be made,
the file cannot be opened, or there is room for so many bytes of it only. -/
inductive SaveMishap
  | unmade (fault : IoFault)
  | unopened (fault : IoFault)
  | cutShort (room : Nat) (fault : IoFault)
  deriving BEq, DecidableEq, Repr

/-- Saves the state of a view, and says under which name.  A file that is opened is emptied before its
bytes are written, so nothing of what it held is left even if they are cut short. -/
def save (store : SessionStore) (state : ViewState) (mishap : Option SaveMishap := none) :
    Except Failure String × SessionStore :=
  let name := fileOf state.document
  let bytes := ViewState.format.pack state
  match mishap, store.create with
  | some (.unmade fault), _ | _, .error fault => (.error (.io fault), store)
  | some (.unopened fault), .ok store => (.error (.io fault), store)
  | some (.cutShort room fault), .ok store =>
    match store.write name (bytes.take room) with
    | .error fault => (.error (.io fault), store)
    | .ok store => (if room < bytes.length then .error (.io fault) else .ok name, store)
  | none, .ok store =>
    match store.write name bytes with
    | .error fault => (.error (.io fault), store)
    | .ok store => (.ok name, store)

/-- The state that was saved for a document.  What cannot be read is removed. -/
def load (store : SessionStore) (uri : String) : Except Failure (Option ViewState) × SessionStore :=
  let name := fileOf uri
  if store.contains name then
    match store.read name with
    | .error fault => (.error (.io fault), store)
    | .ok bytes => match ViewState.format.unpack? bytes with
      | some state => (.ok (if state.document = uri then some state else none), store)
      | none => (.ok none, (Folder.remove store name).toOption.getD store)
  else (.ok none, store)

/-- Removes what was saved for a document, and says whether something was. -/
def remove (store : SessionStore) (uri : String) : Except Failure Bool × SessionStore :=
  let name := fileOf uri
  if store.contains name then
    match Folder.remove store name with
    | .error fault => (.error (.io fault), store)
    | .ok store => (.ok true, store)
  else (.ok false, store)

end SessionStore

end SyntaxExplorer
