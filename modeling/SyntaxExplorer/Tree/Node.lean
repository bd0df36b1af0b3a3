import SyntaxExplorer.Parsing.Subtree
/-!
The nodes of a syntax tree as they are shown: those with a kind to show, each with the role that it
has in its parent.  Hidden symbols are left out, and their children take their place.
-/

namespace SyntaxExplorer

open Parsing

/-- The number of a node: its place in the walk through the whole tree, parents before children. -/
abbrev NodeId := Nat

/-- Whether any siblings follow a node, and whether a named one is among the nearest of them: those
that the innermost symbol around the node has, if it has any. -/
structure LaterSiblings where
  any : Bool := false
  named : Bool := false
  deriving Repr, Inhabited

/-- Everything about a node but its children. -/
structure NodeFacts where
  id : NodeId := 0
  kindId : Nat
  kind : String
  /-- The symbol of the grammar that stands behind the kind. -/
  grammarId : Nat
  grammarKind : String
  isNamed : Bool
  isMissing : Bool
  isExtra : Bool
  hasChanges : Bool
  hasError : Bool
  isError : Bool
  start : Extent
  stop : Extent
  /-- The field of the parent that the node fills. -/
  fieldId : Option Nat := none
  fieldName : Option String := none
  /-- The field by which queries find the node: extras count too. -/
  queryField : Option Nat := none
  /-- Whether a later child of the parent may fill the same field. -/
  fieldMayRepeat : Bool := false
  /-- Which siblings follow. -/
  later : LaterSiblings := {}
  /-- The hidden kinds of kinds that the node stands for, the nearest first. -/
  supertypes : List Nat := []
  deriving Repr, Inhabited

/-- A node with its children. -/
inductive Node
  | mk (facts : NodeFacts) (children : List Node)
  deriving Inhabited

namespace Node

def facts : Node → NodeFacts
  | mk facts _ => facts

def children : Node → List Node
  | mk _ children => children

def id (node : Node) : NodeId := node.facts.id

mutual

/-- The number of nodes in a subtree. -/
def size : Node → Nat
  | mk _ children => sizes children + 1

def sizes : List Node → Nat
  | [] => 0
  | first :: rest => first.size + sizes rest

end

theorem size_pos (node : Node) : 0 < node.size := by
  cases node
  exact Nat.succ_pos _

mutual

/-- Gives a subtree the numbers from a first one on, in the order of the walk. -/
def enumerate (first : NodeId) : Node → Node
  | mk facts children => mk { facts with id := first } (enumerateAll (first + 1) children)

def enumerateAll (first : NodeId) : List Node → List Node
  | [] => []
  | node :: rest => node.enumerate first :: enumerateAll (first + node.size) rest

end

/-- What the ancestors of a subtree say about it, up to the nearest that is shown. -/
structure Role where
  /-- The alias under which the subtree is shown; zero for none. -/
  shownAs : Nat := 0
  /-- The place in each of these ancestors, the nearest first: the shape of its children with the
  index there.  Extras have none. -/
  places : List (Option (Nat × Nat)) := []
  supertypes : List Nat := []
  later : LaterSiblings := {}
  deriving Inhabited

/-- The most supertypes that are kept of one node. -/
def maxSupertypes : Nat := 8

/-- The field that a production itself gives the child at an index. -/
def ownField? (language : Language) (place : Nat × Nat) : Option Nat :=
  ((language.shape place.1).fields.find? fun field =>
    !field.inherited && field.child == place.2).map (·.field)

/-- Whether a production has a field again after the child at an index. -/
def repeatsField (language : Language) (field : Nat) (place : Nat × Nat) : Bool :=
  (language.shape place.1).fields.any fun other => other.field == field && place.2 < other.child

namespace LaterSiblings

/-- What some children of a production show, from the index of the first on. -/
def ofForest (language : Language) (shape index : Nat) : List Subtree → LaterSiblings
  | [] => {}
  | sibling :: rest =>
    let shown := if sibling.isExtra then 0 else language.aliasAt shape index
    let info := language.symbolInfo (if shown = 0 then sibling.symbol else shown)
    let own : LaterSiblings :=
      if info.isVisible then ⟨true, info.isNamed⟩
      else ⟨0 < sibling.facts.visibleChildCount, 0 < sibling.facts.namedChildCount⟩
    if own.named then own
    else
      let others := ofForest language shape (if sibling.isExtra then index else index + 1) rest
      ⟨own.any || others.any, others.named⟩

end LaterSiblings

namespace Role

/-- The role of a child at an index of a production.  `outer` is the role of its parent, which counts
where the parent is hidden; `rest` follows the child. -/
def ofChild (language : Language) (shape index : Nat) (outer : Option Role) (child : Subtree)
    (rest : List Subtree) : Role :=
  let outer := outer.getD {}
  let isExtra := child.isExtra
  let later := LaterSiblings.ofForest language shape (if isExtra then index else index + 1) rest
  { shownAs := if isExtra then 0 else language.aliasAt shape index
    places := (if isExtra then none else some (shape, index)) :: outer.places
    supertypes := outer.supertypes
    later := if later.any then later else outer.later }

/-- The field of the nearest ancestor that gives one; none beyond an extra. -/
def fieldId (language : Language) (role : Role) : Option Nat :=
  (role.places.takeWhile (·.isSome)).findSome? (·.bind (ownField? language))

/-- The places from the one that gives the field on. -/
def fieldPlaces (language : Language) (role : Role) : List (Nat × Nat) :=
  (role.places.filterMap fun place => place).dropWhile fun place =>
    (ownField? language place).isNone

def queryField (language : Language) (role : Role) : Option Nat :=
  (role.fieldPlaces language).head?.bind (ownField? language)

def fieldMayRepeat (language : Language) (role : Role) : Bool :=
  match role.queryField language with
  | some field => (role.fieldPlaces language).any (repeatsField language field)
  | none => false

end Role

/-- The facts of a node: of the subtree that it shows, in a role, from a place on. -/
def factsOf (language : Language) (subtree : SubtreeFacts) (errorCost : Nat) (role : Role)
    (start : Extent) : NodeFacts :=
  let symbol := if role.shownAs = 0 then subtree.symbol else role.shownAs
  let info := language.symbolInfo symbol
  { kindId := language.publicSymbol symbol
    kind := info.name
    grammarId := subtree.symbol
    grammarKind := (language.symbolInfo subtree.symbol).name
    isNamed := if role.shownAs = 0 then subtree.isNamed else info.isNamed
    isMissing := subtree.isMissing
    isExtra := subtree.isExtra
    hasChanges := subtree.hasChanges
    hasError := 0 < errorCost
    isError := language.publicSymbol symbol == errorSymbol
    start
    stop := start + subtree.size
    fieldId := role.fieldId language
    fieldName := (role.fieldId language).map fun field => language.fields[field]?.getD ""
    queryField := role.queryField language
    fieldMayRepeat := role.fieldMayRepeat language
    later := role.later
    supertypes := role.supertypes.take maxSupertypes }

mutual

/-- The nodes that a subtree at a place shows, in a role. -/
def ofSubtree (language : Language) (role : Role) (place : Extent) : Subtree → List Node
  | .mk facts children =>
    let start := place + facts.padding
    if role.shownAs ≠ 0 || facts.isVisible then
      [.mk (factsOf language facts (Subtree.mk facts children).errorCost role start)
        (ofForest language facts.shape none 0 place children)]
    else
      let symbol := language.symbolInfo facts.symbol
      let outer : Role :=
        if symbol.isSupertype then { role with supertypes := facts.symbol :: role.supertypes }
        else role
      ofForest language facts.shape (some outer) 0 place children

/-- The nodes that the children of a subtree show, from an index and a place on. -/
def ofForest (language : Language) (shape : Nat) (outer : Option Role) (index : Nat)
    (place : Extent) : List Subtree → List Node
  | [] => []
  | child :: rest =>
    ofSubtree language (Role.ofChild language shape index outer child rest) place child ++
      ofForest language shape outer (if child.isExtra then index else index + 1)
        (place + child.total) rest

end

/-- The root of a tree: its start symbol. -/
def ofTree (language : Language) (tree : Subtree) : Node :=
  match ofSubtree language {} .zero tree with
  | root :: _ => root
  | [] => .mk (factsOf language tree.facts tree.errorCost {} tree.facts.padding) []

end Node

end SyntaxExplorer
