import SyntaxExplorer.Failure
/-!
Folders of files.  A folder may not exist yet, and a plain file may stand in its place.
-/

namespace SyntaxExplorer

/-- What stands under a name in a folder.  Folders within a folder hold no files here: nothing is ever
written into them. -/
inductive FolderEntry (α : Type)
  | file (content : α)
  | folder
  deriving BEq, DecidableEq, Repr

/-- What stands at the path of a folder. -/
inductive Folder (α : Type)
  | missing
  | blocked
  | holding (entries : List (String × FolderEntry α))
  deriving BEq, DecidableEq, Repr

namespace Folder

instance : Inhabited (Folder α) := ⟨.missing⟩

def find? (folder : Folder α) (name : String) : Option (FolderEntry α) :=
  match folder with
  | .holding entries => entries.lookup name
  | _ => none

def contains (folder : Folder α) (name : String) : Bool := (folder.find? name).isSome

/-- The names in a folder, in order. -/
def names : Folder α → List String
  | .holding entries => (entries.map (·.1)).mergeSort (fun a b => a ≤ b)
  | _ => []

/-- The folder, made if it is missing. -/
def create : Folder α → Except IoFault (Folder α)
  | .missing => .ok (.holding [])
  | .blocked => .error .alreadyExists
  | .holding entries => .ok (.holding entries)

/-- The entries with one put under a name, in the place of what stood there. -/
def put (name : String) (entry : FolderEntry α) (entries : List (String × FolderEntry α)) :
    List (String × FolderEntry α) :=
  (name, entry) :: entries.filter (·.1 != name)

/-- Writes a file.  A name with a slash is one in a folder within the folder, where there are no files, or
in one that is not there; both are refused. -/
def write (folder : Folder α) (name : String) (content : α) : Except IoFault (Folder α) :=
  match folder with
  | .missing => .error .notFound
  | .blocked => .error .notADirectory
  | .holding entries => match entries.lookup name with
    | some .folder => .error .isADirectory
    | _ =>
      if name.contains '/' then .error .notFound
      else .ok (.holding (put name (.file content) entries))

/-- Reads a file. -/
def read (folder : Folder α) (name : String) : Except IoFault α :=
  match folder with
  | .missing => .error .notFound
  | .blocked => .error .notADirectory
  | .holding entries => match entries.lookup name with
    | some (.file content) => .ok content
    | some .folder => .error .isADirectory
    | none => .error .notFound

/-- Removes a file. -/
def remove (folder : Folder α) (name : String) : Except IoFault (Folder α) :=
  match folder with
  | .missing => .error .notFound
  | .blocked => .error .notADirectory
  | .holding entries => match entries.lookup name with
    | some (.file _) => .ok (.holding (entries.filter (·.1 != name)))
    | some .folder => .error .isADirectory
    | none => .error .notFound

/-- Gives a file another name, in the place of the file that had it. -/
def rename (folder : Folder α) (name newName : String) : Except IoFault (Folder α) := do
  let content ← folder.read name
  (← folder.remove name).write newName content

/-- Makes a folder under a name, and the outer folder if it is missing.  Nothing is put in it later. -/
def makeFolder (folder : Folder α) (name : String) : Except IoFault (Folder α) := do
  match ← folder.create with
  | .holding entries => match entries.lookup name with
    | none => return .holding (put name .folder entries)
    | some .folder => return .holding entries
    | some (.file _) => throw .alreadyExists
  | other => return other

end Folder

end SyntaxExplorer
