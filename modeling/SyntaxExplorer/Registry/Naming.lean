import SyntaxExplorer.Text.Quoted
/-!
The names of grammars.  Editors know languages by ids; each id names a grammar, and the grammar the
library that holds it and the constructor in that library.
-/

namespace SyntaxExplorer

/-- The id by which an editor knows a language. -/
structure LanguageId where
  name : String
  deriving BEq, ReflBEq, LawfulBEq, DecidableEq, Hashable, Repr, Inhabited

namespace LanguageId

def resourcePrefix : String := "tree-sitter-"

/-- The ids that are not the names of their grammars. -/
def exceptions : List (String × String) := [
  ("csharp", "c_sharp"), ("javascriptreact", "javascript"), ("typescriptreact", "tsx"),
  ("shellscript", "bash")]

/-- The name of the grammar of a language. -/
def resource (language : LanguageId) : String :=
  resourcePrefix ++ (exceptions.lookup language.name).getD language.name

/-- An id as it is shown to programmers. -/
def describe (language : LanguageId) : String := s!"LanguageId({Text.quote language.name})"

end LanguageId

/-- The file name of the library of a grammar. -/
def libraryFile (resource : String) : String := resource ++ ".so"

/-- The name of the constructor in the library of a grammar. -/
def constructorName (resource : String) : String :=
  String.ofList (resource.toList.map fun c => if c = '-' then '_' else c)

/-- Where a library is fetched from. -/
def libraryAddress (base file : String) : String :=
  String.ofList (base.toList.reverse.dropWhile (· == '/')).reverse ++ "/" ++ file

end SyntaxExplorer
