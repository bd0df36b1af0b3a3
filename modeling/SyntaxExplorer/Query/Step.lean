import SyntaxExplorer.Query.QueryError
import SyntaxExplorer.Parsing.Subtree
/-!
Steps of patterns.  A pattern is a sequence of steps, each a node to find at a depth below the start;
alternatives lead from a step to others, and so make options, choices and repetitions.
-/

namespace SyntaxExplorer.Query

/-- A node to find, or a place where the way through a pattern branches. -/
structure Step where
  /-- Whether the step ends a pattern.  Nothing else counts then. -/
  isEnd : Bool := false
  /-- The kind of the node, if one is asked for. -/
  kind : Option Nat := none
  supertype : Option Nat := none
  field : Option Nat := none
  /-- The numbers of the captures that take the node. -/
  captures : List Nat := []
  depth : Nat := 0
  /-- Another step to go on with. -/
  alternative : Option Nat := none
  /-- Fields that the node must not have. -/
  absentFields : List Nat := []
  isNamed : Bool := false
  isMissing : Bool := false
  /-- Whether no named node may stand between the node and the one before it. -/
  isImmediate : Bool := false
  /-- Whether no named node may follow. -/
  isLastChild : Bool := false
  /-- Whether the step only branches. -/
  isPassThrough : Bool := false
  /-- Whether the step only leads to its alternative. -/
  isDeadEnd : Bool := false
  /-- Whether the alternative has to follow at once. -/
  alternativeIsImmediate : Bool := false
  /-- Whether the step or one below it captures. -/
  containsCaptures : Bool := false
  /-- Whether the step is sure to be found once the step above it is. -/
  isCertain : Bool := false
  deriving BEq, Repr, Inhabited

namespace Step

/-- The most captures that one step makes. -/
def maxCaptures : Nat := 3

/-- The most absent fields that one step checks. -/
def maxAbsentFields : Nat := 8

def ending : Step := { isEnd := true }

def addCapture (step : Step) (capture : Nat) : Step :=
  { step with captures := (step.captures ++ [capture]).take maxCaptures }

/-- Whether a step is below a depth, within the same pattern. -/
def isBelow (step : Step) (depth : Nat) : Bool := !step.isEnd && depth < step.depth

end Step

abbrev Steps := Array Step

namespace Steps

def step (steps : Steps) (index : Nat) : Step := steps[index]?.getD .ending

/-- The steps that the alternatives of a step lead to, itself first, as long as they are accepted. -/
def chain (steps : Steps) (accept : Nat → Nat → Bool) (start : Nat) : List Nat :=
  go steps.size start
where
  go : Nat → Nat → List Nat
    | 0, index => [index]
    | fuel + 1, index => index :: match (steps.step index).alternative with
      | some next => if accept index next then go fuel next else []
      | none => []

/-- The steps that stand for the same node as a step: those that its alternatives lead forward to. -/
def sameNode (steps : Steps) (start : Nat) : List Nat :=
  steps.chain (fun index next => decide (index < next) && decide (next < steps.size)) start

def changeAll (steps : Steps) (indices : List Nat) (change : Step → Step) : Steps :=
  indices.foldl (fun (steps : Steps) index => steps.modify index change) steps

/-- The steps below a step. -/
def below (steps : Steps) (index : Nat) : List Nat :=
  ((List.range (steps.size - (index + 1))).map (index + 1 + ·)).takeWhile fun other =>
    (steps.step other).isBelow (steps.step index).depth

end Steps

/-- Where a pattern may start. -/
structure Entry where
  step : Nat
  pattern : Nat
  /-- Whether one node holds all that the pattern finds. -/
  isRooted : Bool
  deriving Repr, Inhabited

/-- An argument of a condition. -/
inductive Argument
  | capture (id : Nat)
  | literal (text : String)
  deriving BEq, DecidableEq, Repr, Inhabited

/-- A condition as it is written. -/
structure Condition where
  name : String
  arguments : List Argument
  deriving BEq, Repr, Inhabited

end SyntaxExplorer.Query

namespace SyntaxExplorer.Language

open Parsing

/-- The kind that a query names.  A prefix of the name of errors names errors. -/
def kindNamed? (language : Language) (name : String) (isNamed : Bool) : Option Nat :=
  if isNamed && "ERROR".startsWith name then some errorSymbol
  else
    let found := (Array.range language.symbols.size).find? fun symbol =>
      let info := language.symbolInfo symbol
      (info.isVisible || info.isSupertype) && info.isNamed == isNamed && info.name == name
    (found.map language.publicSymbol).filter (· ≠ 0)

/-- The field that a query names. -/
def fieldNamed? (language : Language) (name : String) : Option Nat :=
  (language.fields.findIdx? (· == name)).filter (· ≠ 0)

/-- The kinds that a supertype may stand for; none if the language does not record them. -/
def subtypesOf? (language : Language) (supertype : Nat) : Option (List Nat) :=
  if language.subtypes.isEmpty then none
  else some (((language.subtypes.find? (·.1 == supertype)).map (·.2)).getD [])

end SyntaxExplorer.Language
