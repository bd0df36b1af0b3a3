import SyntaxExplorer.Grammar.Java
import SyntaxExplorer.Grammar.JavaScript
import SyntaxExplorer.Grammar.JavaScript.Scanner
import SyntaxExplorer.Parsing.Edit
import SyntaxExplorer.Parsing.Parser
import SyntaxExplorer.Query.Matching
import SyntaxExplorer.Registry.Library
/-!
The grammars that are built in, as engines: their tables, the parser over them and queries on its trees.
-/

namespace SyntaxExplorer

open Parsing

/-- The engine of a language.  Every parse moves the parser, and most read some text. -/
def Parsing.Parseable.engine (parseable : Parseable) (tables : Query.ChildTables) :
    Engine Subtree Query where
  parse text earlier :=
    let parsed := Parsing.parse parseable text earlier
    { tree := parsed.tree
      traced := if parsed.readText then [.parse, .lex] else [.parse] }
  edit := Subtree.applyEdit
  shown := Node.ofTree parseable.language
  compile := Query.compile parseable.language tables
  captureNames := Query.captures
  search := Query.search

/-- A grammar built from its rules. -/
def GrammarBuild.ofGrammar (source : Grammar.Definition) (scanner : Scanner) (version : Nat)
    (recordsSubtypes : Bool) : GrammarBuild Subtree Query :=
  let language := Language.ofGrammar source recordsSubtypes
  let tables := Query.ChildTables.ofLanguage language
  { version, engine := (Parseable.mk language scanner).engine tables }

/-- A scanner for grammars without external tokens. -/
def noScanner : Scanner := fun _ _ reader => (reader, none)

def javaScriptBuild : GrammarBuild Subtree Query :=
  .ofGrammar Grammar.JavaScript.grammar Grammar.JavaScript.Scanner.scan 15 true

def javaBuild : GrammarBuild Subtree Query := .ofGrammar Grammar.Java.grammar noScanner 14 false

/-- The grammars that need no library, by resource. -/
def builtinGrammar? : String → Option (GrammarBuild Subtree Query)
  | "tree-sitter-javascript" => some javaScriptBuild
  | "tree-sitter-java" => some javaBuild
  | _ => none

end SyntaxExplorer
