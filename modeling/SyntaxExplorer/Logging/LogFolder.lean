import SyntaxExplorer.Store.Folder
/-!
The folder of the log, with one file a day for each component.
-/

namespace SyntaxExplorer

/-- The files of a log hold its lines. -/
abbrev LogFolder := Folder (List String)

namespace LogFolder

/-- The name of the file of a component on a day. -/
def fileOf (component day : String) : String := component ++ "." ++ day

/-- Opens the log of a component on a day. -/
def start (folder : LogFolder) (component day : String) : Except Failure LogFolder := do
  let folder ← folder.create.mapError .io
  if folder.contains (fileOf component day) then return folder
  (folder.write (fileOf component day) []).mapError .io

/-- The number of files of a component. -/
def fileCount (folder : LogFolder) (component : String) : Nat :=
  (folder.names.filter fun name => name.startsWith (component ++ ".")).length

end LogFolder

end SyntaxExplorer
