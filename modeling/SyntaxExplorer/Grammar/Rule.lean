import SyntaxExplorer.Lexical.Pattern
/-!
Grammars as they are written: named rules over tokens, sequences, choices and repetitions, with the
precedences, aliases and fields that shape the trees.
-/

namespace SyntaxExplorer.Grammar

open Lexical

inductive Associativity
  | left
  | right
  deriving BEq, DecidableEq, Hashable, Repr

/-- How strongly a production binds: not said, a number, or a name that an ordering ranks. -/
inductive Precedence
  | none
  | level (value : Int)
  | named (name : String)
  deriving BEq, DecidableEq, Hashable, Repr, Inhabited

/-- The kind under which a node is shown instead of its own. -/
structure Alias where
  name : String
  isNamed : Bool
  deriving BEq, DecidableEq, Hashable, Repr, Inhabited

/-- A token: its pattern, its literal text if it is one, and how it competes with other tokens.  An
immediate token admits no separator before it. -/
structure TokenRule where
  pattern : Pattern
  literal : Option String := none
  precedence : Int := 0
  immediate : Bool := false
  deriving BEq, DecidableEq, Hashable, Repr, Inhabited

/-- A rule whose symbols are of type `σ`. -/
inductive Rule (σ : Type)
  | blank
  | symbol (name : σ)
  | token (rule : TokenRule)
  | seq (first second : Rule σ)
  | choice (left right : Rule σ)
  | repeat1 (inner : Rule σ)
  | field (name : String) (inner : Rule σ)
  | shownAs (name : Alias) (inner : Rule σ)
  | ranked (precedence : Precedence) (associativity : Option Associativity) (inner : Rule σ)
  | dynamic (value : Int) (inner : Rule σ)
  | reserving (context : String) (inner : Rule σ)
  deriving BEq, DecidableEq, Hashable, Repr, Inhabited

namespace Rule

/-- Rules one after another. -/
def all : List (Rule σ) → Rule σ
  | [] => .blank
  | [last] => last
  | first :: rest => .seq first (all rest)

/-- Any one of several rules. -/
def any : List (Rule σ) → Rule σ
  | [] => .blank
  | [last] => last
  | first :: rest => .choice first (any rest)

def text (literal : String) : Rule σ :=
  .token { pattern := .text literal, literal := some literal }

def pattern (pattern : Pattern) : Rule σ := .token { pattern }

def optional (inner : Rule σ) : Rule σ := .choice inner .blank

def many (inner : Rule σ) : Rule σ := .choice (.repeat1 inner) .blank

/-- One or more of a rule, with commas between. -/
def commaSep1 (inner : Rule σ) : Rule σ := .seq inner (many (.seq (text ",") inner))

def commaSep (inner : Rule σ) : Rule σ := optional (commaSep1 inner)

/-- A rule that binds as a named precedence says. -/
def binds (name : String) (inner : Rule σ) : Rule σ := .ranked (.named name) none inner

def bindsLeft (precedence : Precedence) (inner : Rule σ) : Rule σ :=
  .ranked precedence (some .left) inner

def bindsRight (precedence : Precedence) (inner : Rule σ) : Rule σ :=
  .ranked precedence (some .right) inner

/-- Groups to the right, at the precedence of rules that name none. -/
def groupsRight (inner : Rule σ) : Rule σ := bindsRight (.level 0) inner

/-- Groups to the left, at the precedence of rules that name none. -/
def groupsLeft (inner : Rule σ) : Rule σ := bindsLeft (.level 0) inner

/-- A rule whose node is shown as a node of another named kind. -/
def as (name : String) (inner : Rule σ) : Rule σ := .shownAs ⟨name, true⟩ inner

/-- A token that must follow the previous one at once. -/
def immediate (precedence : Int) (pattern : Pattern) : Rule σ :=
  .token { pattern, precedence, immediate := true }

/-- A name stands for the rule of that name. -/
instance : Coe String (Rule String) := ⟨.symbol⟩

end Rule

/-- An entry of a precedence ordering: a precedence's name, or a rule. -/
inductive Rank
  | named (name : String)
  | rule (name : String)
  deriving BEq, DecidableEq, Repr

/-- A grammar: its first rule is the start rule. -/
structure Definition where
  name : String
  rules : List (String × Rule String)
  /-- Tokens that may stand anywhere; a pattern that is no rule only separates tokens. -/
  extras : List (Rule String)
  /-- Tokens that the grammar's own scanner recognises. -/
  externals : List (Rule String)
  /-- Sets of rules between which the parser may stay undecided. -/
  conflicts : List (List String)
  /-- Orderings of precedences, the strongest first. -/
  orderings : List (List Rank)
  supertypes : List String
  /-- Rules that are replaced by their productions wherever they are used. -/
  inlined : List String
  /-- The token that keywords would be if they were not keywords. -/
  word : Option String
  /-- Sets of words that are no identifiers; the first is in force unless a rule says otherwise. -/
  reserved : List (String × List (Rule String)) := []

end SyntaxExplorer.Grammar
