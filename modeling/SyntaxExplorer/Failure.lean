import SyntaxExplorer.Text.Change
import SyntaxExplorer.View.Message
import SyntaxExplorer.Wire.Json
/-!
What can go wrong, and how it is told.
-/

namespace SyntaxExplorer

/-- Why files or folders cannot be used. -/
inductive IoFault
  | notFound
  | alreadyExists
  | isADirectory
  | notADirectory
  | permissionDenied
  | storageFull
  | invalidData
  | other (text : String)
  deriving BEq, DecidableEq, Repr

namespace IoFault

def name : IoFault → String
  | notFound => "NotFound"
  | alreadyExists => "AlreadyExists"
  | isADirectory => "IsADirectory"
  | notADirectory => "NotADirectory"
  | permissionDenied => "PermissionDenied"
  | storageFull => "StorageFull"
  | invalidData => "InvalidData"
  | other _ => "Other"

def text : IoFault → String
  | notFound => "No such file or directory (os error 2)"
  | alreadyExists => "File exists (os error 17)"
  | isADirectory => "Is a directory (os error 21)"
  | notADirectory => "Not a directory (os error 20)"
  | permissionDenied => "Permission denied (os error 13)"
  | storageFull => "No space left on device (os error 28)"
  | invalidData => "stream did not contain valid UTF-8"
  | other text => text

end IoFault

/-- Why the editor cannot hand out a document. -/
inductive HostFault
  | documentNotFound (uri : String)
  | invalidArgument (text : String)
  | internal (text : String)
  deriving BEq, DecidableEq, Repr

def HostFault.message : HostFault → String
  | documentNotFound uri => s!"Document not found: {uri}"
  | invalidArgument text => s!"Invalid argument: {text}"
  | internal text => s!"Internal error: {text}"

inductive Failure
  | grammarUnavailable (language reason : String)
  | queryCompile (fault : QueryFault)
  | queryEval (fault : QueryFault)
  | edit (reason : String)
  | parsing (reason : String)
  | io (fault : IoFault)
  | json (fault : Wire.Fault)
  | encode
  | decode
  | http
  | internal (reason : String)
  deriving BEq, DecidableEq, Repr

namespace Failure

def ofEdit (fault : EditFault) : Failure := edit fault.message

def ofHost (fault : HostFault) : Failure := internal fault.message

/-- How a failure is told.  Of faults in what others wrote, only the kind is told. -/
def message : Failure → String
  | grammarUnavailable language reason => s!"Grammar unavailable for '{language}': {reason}"
  | queryCompile fault => s!"Query compile error at {fault.index}: {fault.message}"
  | queryEval fault => s!"Query evaluation error: {fault.message}"
  | edit reason => s!"Invalid edit: {reason}"
  | parsing reason => s!"Parsing error: {reason}"
  | io fault => s!"I/O error: {fault.text}"
  | json _ => "JSON serialization/deserialization error"
  | encode => "State encode error"
  | decode => "State decode error"
  | http => "HTTP error"
  | internal reason => s!"Internal error: {reason}"

/-- Where in a query a failure lies.  Such failures leave the tree alone. -/
def queryFault? : Failure → Option QueryFault
  | queryCompile fault | queryEval fault => some fault
  | _ => none

end Failure

end SyntaxExplorer
