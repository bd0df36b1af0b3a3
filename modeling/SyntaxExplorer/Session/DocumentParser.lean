import SyntaxExplorer.Registry.Library
/-!
The parser of one document.  Trees are values: an edit makes a new tree, which helps to parse the new
text, and leaves the old one as it was.
-/

namespace SyntaxExplorer

variable {Tree Query : Type}

/-- A parser for the texts of one document, in one grammar. -/
structure DocumentParser (Tree Query : Type) where
  grammar : LoadedGrammar Tree Query
  /-- Whether trace lines are asked for. -/
  isLogging : Bool := false

namespace DocumentParser

/-- A parser for a grammar, if its tables can be read. -/
def ofGrammar (grammar : LoadedGrammar Tree Query) : Except Failure (DocumentParser Tree Query) :=
  match grammar.build.check with
  | .ok () => .ok { grammar }
  | .error reason => .error (.grammarUnavailable grammar.language.name reason)

def engine (parser : DocumentParser Tree Query) : Engine Tree Query := parser.grammar.engine

/-- Parses a text.  Lines are traced only while they are asked for. -/
def reparse (parser : DocumentParser Tree Query) (text : String) (earlier : Option Tree) :
    Reading Tree :=
  let reading := parser.engine.parse text earlier
  if parser.isLogging then reading else { reading with traced := [] }

def parse (parser : DocumentParser Tree Query) (text : String) : Reading Tree :=
  parser.reparse text none

/-- A tree after some edits, each of the text that the edit before it left. -/
def carry (parser : DocumentParser Tree Query) (tree : Tree) (edits : List TreeEdit) : Tree :=
  edits.foldl parser.engine.edit tree

/-- Parses the text that some edits of an earlier text lead to.  No edit is made unless all are
valid. -/
def update (parser : DocumentParser Tree Query) (tree : Tree) (edits : List TreeEdit)
    (text : String) : Except EditFault (Reading Tree) := do
  edits.forM TreeEdit.validate
  return parser.reparse text (some (parser.carry tree edits))

end DocumentParser

end SyntaxExplorer
