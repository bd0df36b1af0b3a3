import SyntaxExplorer.Explorer
import SyntaxExplorer.Proofs.Session.CommentLines

/-! An explorer for documents whose lines are comments. -/

namespace SyntaxExplorer.CommentLines

/-- The explorer that has no other language built in, with a store of saved states. -/
def explorer (store : SessionStore) : Explorer String Unit where
  registry := {
    builtins resource := if resource = "tree-sitter-javascript" then some ⟨15, engine⟩ else none
    path := "grammars"
    source := .web }
  matchLimit := 64
  store

/-- A document of the language. -/
def document (uri text : String) : Document := ⟨uri, ⟨"javascript"⟩, text⟩

end SyntaxExplorer.CommentLines
