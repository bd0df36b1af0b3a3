import SyntaxExplorer.Engine
import SyntaxExplorer.Failure
/-!
Grammars that are ready for use, and the libraries that they come from.  A library holds constructors
under their names; the tables that one makes have a version, and only some versions can be read.
-/

namespace SyntaxExplorer

variable {Tree Query : Type}

/-- What a constructor makes: an engine, and the version of its tables. -/
structure GrammarBuild (Tree Query : Type) where
  version : Nat
  engine : Engine Tree Query

/-- The versions of tables that can be read. -/
structure VersionRange where
  lowest : Nat
  highest : Nat

def readableVersions : VersionRange := ⟨13, 15⟩

/-- Makes sure that tables can be read; fails with the reason why not. -/
def GrammarBuild.check (build : GrammarBuild Tree Query) : Except String Unit :=
  if readableVersions.lowest ≤ build.version ∧ build.version ≤ readableVersions.highest then .ok ()
  else .error <| s!"Incompatible language version {build.version}. Expected minimum " ++
    s!"{readableVersions.lowest}, maximum {readableVersions.highest}"

/-- A file that is taken for a library. -/
inductive Library (Tree Query : Type)
  | image (constructors : List (String × GrammarBuild Tree Query))
  | junk (bytes : List UInt8)

/-- Where a grammar came from. -/
inductive GrammarOrigin
  | builtin
  | library (path : String)
  deriving BEq, DecidableEq, Repr

def GrammarOrigin.describe : GrammarOrigin → String
  | builtin => "Builtin"
  | library path => s!"Library({Text.quote path})"

/-- A grammar that is ready for use. -/
structure LoadedGrammar (Tree Query : Type) where
  language : LanguageId
  resource : String
  origin : GrammarOrigin
  build : GrammarBuild Tree Query

namespace LoadedGrammar

def engine (grammar : LoadedGrammar Tree Query) : Engine Tree Query := grammar.build.engine

/-- A grammar as it is shown to programmers. -/
def describe (grammar : LoadedGrammar Tree Query) : String :=
  s!"Grammar \x7b language_id: {grammar.language.describe}, " ++
    s!"resource: {Text.quote grammar.resource}, origin: {grammar.origin.describe} \x7d"

end LoadedGrammar

/-- Finds the constructor of a grammar in the library at a path.  Here a grammar is told by its
resource. -/
def Library.construct (library : Library Tree Query) (path resource : String) :
    Except Failure (GrammarBuild Tree Query) :=
  match library with
  | .junk _ => .error (.grammarUnavailable resource s!"failed to load {path}")
  | .image constructors => match constructors.lookup (constructorName resource) with
    | some build => .ok build
    | none =>
      .error (.grammarUnavailable resource s!"missing symbol {constructorName resource}")

end SyntaxExplorer
