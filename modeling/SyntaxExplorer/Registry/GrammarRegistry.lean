import SyntaxExplorer.Config
import SyntaxExplorer.Registry.Library
import SyntaxExplorer.Store.Folder
/-!
The registry of grammars, which all sessions share.  A grammar is loaded once: one that is built in at
once, any other from a library, and a library that is missing is downloaded into the folder first.
-/

namespace SyntaxExplorer

variable {Tree Query : Type}

/-- What a download does with the fetched library. -/
inductive DownloadStep
  | makeFolder
  | writePart
  | rename
  deriving BEq, DecidableEq, Repr

/-- Where libraries are fetched from.  Answers are by the count of earlier requests and the name of
the file. -/
structure LibrarySource (Tree Query : Type) where
  fetch : Nat → String → Except Failure (Library Tree Query)
  /-- Faults of the disk, beyond those that the state of the folder explains. -/
  fault : Nat → DownloadStep → Option IoFault := fun _ _ => none

/-- A source of which every request fails in one way. -/
def LibrarySource.failing (failure : String → Failure) : LibrarySource Tree Query where
  fetch _ file := .error (failure file)

/-- The source on the web.  No request gets through, so all of them fail. -/
def LibrarySource.web : LibrarySource Tree Query := failing fun _ => .http

structure GrammarRegistry (Tree Query : Type) where
  /-- The grammars that need no library, by resource. -/
  builtins : String → Option (GrammarBuild Tree Query) := fun _ => none
  path : String
  folder : Folder (Library Tree Query) := .missing
  source : LibrarySource Tree Query
  /-- The files that were requested, in order. -/
  requests : List String := []
  loaded : List (LanguageId × LoadedGrammar Tree Query) := []

namespace GrammarRegistry

/-- The loaded grammar of a language. -/
def find? (registry : GrammarRegistry Tree Query) (language : LanguageId) :
    Option (LoadedGrammar Tree Query) := registry.loaded.lookup language

def isLoaded (registry : GrammarRegistry Tree Query) (language : LanguageId) : Bool :=
  (registry.find? language).isSome

def loadedCount (registry : GrammarRegistry Tree Query) : Nat := registry.loaded.length

/-- The name under which a library is written before it is complete. -/
def partFile (resource : String) : String := resource ++ ".part"

def libraryPath (registry : GrammarRegistry Tree Query) (resource : String) : String :=
  joinPath registry.path (libraryFile resource)

/-- Whether a library is in the folder. -/
def holds (registry : GrammarRegistry Tree Query) (resource : String) : Bool :=
  registry.folder.contains (libraryFile resource)

/-- A step of a download, unless the disk fails. -/
def step (registry : GrammarRegistry Tree Query) (attempt : Nat) (step : DownloadStep)
    (change : Folder (Library Tree Query) → Except IoFault (Folder (Library Tree Query))) :
    Except Failure Unit × GrammarRegistry Tree Query :=
  match registry.source.fault attempt step with
  | some fault => (.error (.io fault), registry)
  | none => match change registry.folder with
    | .error fault => (.error (.io fault), registry)
    | .ok folder => (.ok (), { registry with folder })

/-- Requests a library from the source. -/
def fetch (registry : GrammarRegistry Tree Query) (resource : String) :
    Except Failure (Library Tree Query) × GrammarRegistry Tree Query :=
  let file := libraryFile resource
  (registry.source.fetch registry.requests.length file,
    { registry with requests := registry.requests ++ [file] })

/-- Puts a fetched library into the folder.  It is complete before it gets its name. -/
def keep (registry : GrammarRegistry Tree Query) (attempt : Nat) (resource : String)
    (library : Library Tree Query) : Except Failure Unit × GrammarRegistry Tree Query :=
  match registry.step attempt .makeFolder Folder.create with
  | (.error failure, registry) => (.error failure, registry)
  | (.ok (), registry) =>
    match registry.step attempt .writePart (·.write (partFile resource) library) with
    | (.error failure, registry) => (.error failure, registry)
    | (.ok (), registry) =>
      registry.step attempt .rename (·.rename (partFile resource) (libraryFile resource))

def download (registry : GrammarRegistry Tree Query) (resource : String) :
    Except Failure Unit × GrammarRegistry Tree Query :=
  let attempt := registry.requests.length
  match registry.fetch resource with
  | (.error failure, registry) => (.error failure, registry)
  | (.ok library, registry) => registry.keep attempt resource library

/-- Makes a grammar from the library in the folder. -/
def construct (registry : GrammarRegistry Tree Query) (language : LanguageId) :
    Except Failure (LoadedGrammar Tree Query) := do
  let resource := language.resource
  let path := registry.libraryPath resource
  let library := match registry.folder.read (libraryFile resource) with
    | .ok library => library
    | .error _ => .junk []
  let build ← library.construct path resource
  match build.check with
  | .ok () => return ⟨language, resource, .library path, build⟩
  | .error reason => throw (.grammarUnavailable language.name reason)

/-- Loads the grammar of a language. -/
def load (registry : GrammarRegistry Tree Query) (language : LanguageId) :
    Except Failure (LoadedGrammar Tree Query) × GrammarRegistry Tree Query :=
  match registry.builtins language.resource with
  | some build => (.ok ⟨language, language.resource, .builtin, build⟩, registry)
  | none =>
    if registry.holds language.resource then (registry.construct language, registry)
    else match registry.download language.resource with
      | (.error failure, registry) =>
        (.error (.grammarUnavailable language.name failure.message), registry)
      | (.ok (), registry) => (registry.construct language, registry)

/-- The grammar of a language, loaded at its first use. -/
def get (registry : GrammarRegistry Tree Query) (language : LanguageId) :
    Except Failure (LoadedGrammar Tree Query) × GrammarRegistry Tree Query :=
  match registry.find? language with
  | some grammar => (.ok grammar, registry)
  | none => match registry.load language with
    | (.error failure, registry) => (.error failure, registry)
    | (.ok grammar, registry) =>
      (.ok grammar, { registry with loaded := (language, grammar) :: registry.loaded })

/-- The grammars of some languages, one after another, each with its mark. -/
def getEach (registry : GrammarRegistry Tree Query) : List (LanguageId × Nat) →
    List (Except Failure (LoadedGrammar Tree Query) × Nat) × GrammarRegistry Tree Query
  | [] => ([], registry)
  | (language, mark) :: rest =>
    let (answer, registry) := registry.get language
    let (answers, registry) := registry.getEach rest
    ((answer, mark) :: answers, registry)

/-- The grammars of languages that are asked for at one time.  Those who ask for one language wait for
one another, and different languages take turns. -/
def getAll (registry : GrammarRegistry Tree Query) (languages : List LanguageId) :
    List (Except Failure (LoadedGrammar Tree Query)) × GrammarRegistry Tree Query :=
  let waitsFor (request : LanguageId × Nat) : Nat := (languages.take request.2).count request.1
  let turns := languages.zipIdx.mergeSort fun first second => waitsFor first ≤ waitsFor second
  let (answers, registry) := registry.getEach turns
  ((answers.mergeSort fun first second => first.2 ≤ second.2).map (·.1), registry)

end GrammarRegistry

end SyntaxExplorer
