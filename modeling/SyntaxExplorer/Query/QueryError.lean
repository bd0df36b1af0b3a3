import SyntaxExplorer.Text.Bytes
import SyntaxExplorer.Text.CharacterClass
import SyntaxExplorer.View.Message
/-!
Errors in queries, and how they are shown in the text of the query: an unknown name as a span, all else
as a place.
-/

namespace SyntaxExplorer

/-- What is wrong with a query. -/
inductive QueryErrorKind
  | malformed
  | unknownKind
  | unknownField
  | unknownCapture
  | badPredicate
  | impossiblePattern
  | badLanguage
  deriving BEq, DecidableEq, Repr, Inhabited

/-- An error at an offset of the query.  The message counts for those kinds that have none of their
own. -/
structure QueryError where
  kind : QueryErrorKind
  offset : Nat
  message : String := ""
  deriving BEq, DecidableEq, Repr, Inhabited

namespace QueryError

def isNameCharacter (c : Char) : Bool :=
  c == '-' || c == '.' || CharacterClass.word.contains c

/-- The first line of a text, without what ends it. -/
def firstLine (chars : List Char) : List Char :=
  let line := chars.takeWhile (· != '\n')
  if line.length < chars.length && line.getLast? == some '\r' then line.dropLast else line

/-- What is told of an error in the text of a query. -/
def locate (error : QueryError) (query : String) : QueryFault :=
  let rest := (Text.dropBytes? query error.offset).getD []
  let name := rest.takeWhile isNameCharacter
  let named (text : String) : QueryFault :=
    ⟨text, error.offset, Text.byteLength name⟩
  let placed (text : String) : QueryFault :=
    ⟨s!"{text} at offset {error.offset}: '{String.ofList (firstLine rest)}'...", error.offset, 0⟩
  match error.kind with
  | .unknownKind => named s!"Bad node name '{String.ofList name}'"
  | .unknownField => named s!"Bad field name '{String.ofList name}'"
  | .unknownCapture => named s!"Bad capture name @{String.ofList name}"
  | .impossiblePattern => placed "Bad pattern structure"
  | .malformed => placed "Bad syntax"
  | .badPredicate | .badLanguage => ⟨error.message, error.offset, 0⟩

end QueryError

end SyntaxExplorer
