/-!
Lines that trace what a parser does.
-/

namespace SyntaxExplorer

/-- Whether a line tells of the lexer or of the parser. -/
inductive TraceKind
  | lex
  | parse
  deriving BEq, DecidableEq, Repr, Inhabited

structure TraceLine where
  kind : TraceKind
  message : String
  deriving BEq, DecidableEq, Repr, Inhabited

namespace TraceLine

/-- The target under which trace lines are logged. -/
def target : String := "treescope::parse"

/-- The fields of a trace line, by which a filter may select it. -/
def fields : List String := ["message", "document"]

def render (line : TraceLine) : String :=
  match line.kind with
  | .lex => "[LEX]: " ++ line.message
  | .parse => "[PARSE]: " ++ line.message

/-- A trace line of a document, as it stands in the log after the time. -/
def logged (document : String) (line : TraceLine) : String :=
  "TRACE " ++ target ++ ": " ++ line.render ++ " document=" ++ document

end TraceLine

end SyntaxExplorer
