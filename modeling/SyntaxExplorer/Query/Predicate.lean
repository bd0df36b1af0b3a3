import SyntaxExplorer.Query.Step
import SyntaxExplorer.Text.RegexReader
/-!
The conditions that a match must fulfil.  They compare the texts of captured nodes; conditions of other
names are left to those who use the captures.
-/

namespace SyntaxExplorer.Query

/-- Whether a condition asks for agreement or for difference, and of how many of the nodes. -/
structure Demand where
  agrees : Bool
  ofAll : Bool
  deriving BEq, Repr

inductive Predicate
  /-- The nodes of two captures, pair by pair. -/
  | sameText (first second : Nat) (demand : Demand)
  | hasText (capture : Nat) (text : String) (demand : Demand)
  | matchesRegex (capture : Nat) (regex : Regex) (demand : Demand)
  | isAnyOf (capture : Nat) (texts : List String) (agrees : Bool)

namespace Predicate

/-- Whether texts meet a demand: all of them, or the first that does.  None decide nothing. -/
def decide? (demand : Demand) (agree : α → Bool) : List α → Option Bool
  | [] => none
  | text :: rest =>
    if agree text = demand.agrees then
      if demand.ofAll then decide? demand agree rest else some true
    else if demand.ofAll then some false
    else decide? demand agree rest

/-- Whether a match fulfils a condition.  `texts` gives the texts of a capture's nodes, in order. -/
def holds (texts : Nat → List String) : Predicate → Bool
  | sameText first second demand =>
    let (left, right) := (texts first, texts second)
    (decide? demand (fun pair : String × String => pair.1 == pair.2) (left.zip right)).getD <|
      left.length == right.length
  | hasText capture text demand => (decide? demand (· == text) (texts capture)).getD true
  | matchesRegex capture regex demand =>
    (decide? demand regex.matchesIn (texts capture)).getD true
  | isAnyOf capture options agrees =>
    (texts capture).all fun text => options.contains text == agrees

end Predicate

namespace Condition

def fail (message : String) : Except QueryError α := throw ⟨.badPredicate, 0, message⟩

/-- The capture that an argument has to be. -/
def capture (condition : Condition) : Argument → Except QueryError Nat
  | .capture id => return id
  | .literal text => fail <| s!"First argument to #{condition.name} predicate must be a capture " ++
      s!"name. Got literal \"{text}\"."

def wrongCount (condition : Condition) (expected : String) : Except QueryError α :=
  fail <| s!"Wrong number of arguments to #{condition.name} predicate. Expected {expected}, " ++
    s!"got {condition.arguments.length}."

/-- Checks the arguments of a property: at most one capture, a key and perhaps a value. -/
def checkProperty (condition : Condition) (names : Array String) : Except QueryError Unit := do
  let count := condition.arguments.length
  if count = 0 || 3 < count then
    fail <| s!"Wrong number of arguments to {condition.name} predicate. Expected 1 to 3, " ++
      s!"got {count}."
  let invalid (what : String) : Except QueryError Unit :=
    fail s!"Invalid arguments to {condition.name} predicate. {what}"
  let captures := condition.arguments.filterMap fun
    | .capture id => some id
    | .literal _ => none
  let literals := condition.arguments.filterMap fun
    | .capture _ => none
    | .literal text => some text
  if let second :: _ := captures.drop 1 then
    invalid ("Unexpected second capture name @" ++ names[second]?.getD "")
  if let third :: _ := literals.drop 2 then
    invalid s!"Unexpected third argument @{third}"
  if literals.isEmpty then
    invalid "Missing key argument"

/-- The literal that an argument has to be; `which` and `what` tell of it. -/
def literal (condition : Condition) (names : Array String) (which what : String) :
    Argument → Except QueryError String
  | .literal text => return text
  | .capture id =>
    let name := names[id]?.getD ""
    fail s!"{which} to #{condition.name} predicate must be {what}. Got capture @{name}."

/-- What a condition demands of matches, if it is of a known name. -/
def toPredicate? (condition : Condition) (names : Array String) :
    Except QueryError (Option Predicate) := do
  let demand : Demand := {
    agrees := ["eq?", "any-eq?", "match?", "any-match?", "any-of?"].contains condition.name
    ofAll := !condition.name.startsWith "any-" }
  match condition.name with
  | "eq?" | "not-eq?" | "any-eq?" | "any-not-eq?" => match condition.arguments with
    | [first, second] =>
      let first ← condition.capture first
      match second with
      | .capture second => return some (.sameText first second demand)
      | .literal text => return some (.hasText first text demand)
    | _ => condition.wrongCount "2"
  | "match?" | "not-match?" | "any-match?" | "any-not-match?" => match condition.arguments with
    | [first, second] =>
      let first ← condition.capture first
      let text ← condition.literal names "Second argument" "a literal" second
      match Regex.ofText? text with
      | some regex => return some (.matchesRegex first regex demand)
      | none => fail s!"Invalid regex '{text}'"
    | _ => condition.wrongCount "2"
  | "any-of?" | "not-any-of?" => match condition.arguments with
    | first :: rest =>
      let first ← condition.capture first
      let texts ← rest.mapM (condition.literal names "Arguments" "literals")
      return some (.isAnyOf first texts demand.agrees)
    | [] => condition.wrongCount "at least 1"
  | "set!" | "is?" | "is-not?" =>
    condition.checkProperty names
    return none
  | _ => return none

end Condition

end SyntaxExplorer.Query
