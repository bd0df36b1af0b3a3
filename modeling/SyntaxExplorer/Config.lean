import SyntaxExplorer.Failure
import SyntaxExplorer.Text.Bytes
import SyntaxExplorer.Wire.Format
/-!
The configuration of the explorer.  Whatever a file leaves out comes from the environment.
-/

namespace SyntaxExplorer

/-- The variables of an environment that are set. -/
structure Environment where
  settings : List (String × String)
  deriving BEq, DecidableEq, Repr, Inhabited

structure Config where
  grammarFolder : String
  grammarBase : String
  stateFolder : String
  logFolder : String
  /-- The most matches of a query that may be in progress. -/
  matchLimit : Nat
  deriving BEq, DecidableEq, Repr, Inhabited

/-- A path within a path; one that starts at the root stands for itself. -/
def joinPath (base name : String) : String :=
  if name.startsWith "/" || base.isEmpty then name
  else if base.endsWith "/" then base ++ name
  else base ++ "/" ++ name

namespace Environment

def lookup (environment : Environment) (name : String) : Option String :=
  environment.settings.lookup name

def home (environment : Environment) : String := (environment.lookup "HOME").getD "."

/-- The folder of caches, unless nothing tells where it is. -/
def cacheFolder? (environment : Environment) : Option String :=
  match environment.lookup "XDG_CACHE_HOME" with
  | some folder => if folder.startsWith "/" then some folder else ofHome
  | none => ofHome
where
  ofHome : Option String := do
    let home ← environment.lookup "HOME"
    if home.isEmpty then none else return joinPath home ".cache"

/-- A folder of the explorer below the home folder. -/
def ownFolder (environment : Environment) (name : String) : String :=
  joinPath (joinPath environment.home ".treescope") name

def grammarFolder (environment : Environment) : String :=
  (environment.lookup "TREESCOPE_GRAMMAR_DIR").getD <|
    match environment.cacheFolder? with
    | some folder => joinPath (joinPath folder "treescope") "grammars"
    | none => environment.ownFolder "grammars"

def stateFolder (environment : Environment) : String :=
  (environment.lookup "TREESCOPE_STATE_DIR").getD (environment.ownFolder "sessions")

def logFolder (environment : Environment) : String :=
  (environment.lookup "TREESCOPE_LOG_DIR").getD (environment.ownFolder "logs")

end Environment

namespace Config

def defaultGrammarBase : String := "https://tree-sitter.github.io"

def defaultMatchLimit : Nat := 64 * 1024

/-- Match limits have so many bits. -/
def limitBits : Nat := 32

/-- The configuration that an environment gives. -/
def ofEnvironment (environment : Environment) : Config where
  grammarFolder := environment.grammarFolder
  grammarBase := (environment.lookup "TREESCOPE_GRAMMAR_URL").getD defaultGrammarBase
  stateFolder := environment.stateFolder
  logFolder := environment.logFolder
  matchLimit := defaultMatchLimit

/-- The format of configurations.  Fields that are left out are those of `base`. -/
def format (base : Config) : Wire.Format Config where
  schema := .record (.ofList [
    ("grammar_dir", .defaulted (.text base.grammarFolder), .text),
    ("grammar_base_url", .defaulted (.text base.grammarBase), .text),
    ("state_dir", .defaulted (.text base.stateFolder), .text),
    ("log_dir", .defaulted (.text base.logFolder), .text),
    ("query_match_limit", .defaulted (.natural base.matchLimit), .natural limitBits)])
  toValue config := .record [
    .text config.grammarFolder, .text config.grammarBase, .text config.stateFolder,
    .text config.logFolder, .natural config.matchLimit]
  ofValue?
    | .record [.text grammarFolder, .text grammarBase, .text stateFolder, .text logFolder,
        .natural matchLimit] =>
      some { grammarFolder, grammarBase, stateFolder, logFolder, matchLimit }
    | _ => none

/-- Reads a configuration from the content of a file, if there is one. -/
def load (environment : Environment) (content : Option (List UInt8)) : Except Failure Config := do
  let some bytes := content | throw (.io .notFound)
  let some text := Text.ofBytes? bytes | throw (.io .invalidData)
  ((ofEnvironment environment).format.parse text).mapError .json

def render (config : Config) : String := config.format.render config

end Config

end SyntaxExplorer
