import SyntaxExplorer.Proofs.Session.Runs

/-! The language in which each line is a comment: the smallest one whose trees have rows.
Its engine parses every text anew, so it shows what the theorems on engines ask for.
-/

namespace SyntaxExplorer

namespace CommentLines

/-- A node of the language without a place in a tree. -/
def node (kindId : Nat) (kind : String) (isExtra : Bool) (start stop : Extent)
    (children : List Node) : Node :=
  .mk
    {
      kindId, kind, grammarId := kindId, grammarKind := kind, isNamed := true,
      isMissing := false, isExtra, hasChanges := false, hasError := false, isError := false,
      start, stop
    }
    children

/-- The lines of some characters, each as a comment.  `line` holds what was read of the line at
hand, which starts behind an extent.
-/
def comments (start : Extent) (line : List Char) : List Char → List Node
  | [] => [node 108 "comment" true start (start + .ofChars line) []]
  | c :: rest =>
      if c = '\n' then
        node 108 "comment" true start (start + .ofChars line) []
          :: comments (start + .ofChars (line ++ [c])) [] rest
      else comments start (line ++ [c]) rest

/-- The tree of a text is shown as a program of its lines. -/
def program (text : String) : Node :=
  node 134 "program" false .zero (.ofChars text.toList) (comments .zero [] text.toList)

/-- The only query of the language. -/
def query : String := "(comment) @line"

/-- The engine of the language.  A query captures all lines, in their order. -/
def engine : Engine String Unit where
  parse text _ := { tree := text, traced := [.parse, .lex] }
  edit text _ := text
  shown := program
  compile text := if text = query then .ok () else .error ⟨.unknownKind, 1, ""⟩
  captureNames _ := #["line"]
  search _ _ root _ :=
    { found := root.children.map fun line => ⟨0, [⟨⟨0, by decide⟩, line, some root.id⟩]⟩
      exceeded := false }

/-- The language as a grammar that can be read. -/
def grammar : LoadedGrammar String Unit :=
  ⟨⟨"javascript"⟩, "tree-sitter-javascript", .builtin, ⟨15, engine⟩⟩

/-- The session of a document that is one comment. -/
def session : Session String Unit :=
  (Session.unshown { document := "file:///a.js" } "//a" grammar 64).refresh.2

/-- The document can be opened. -/
theorem started : Session.Started "//a" grammar 64 session := .opened "file:///a.js" rfl

end CommentLines

end SyntaxExplorer
