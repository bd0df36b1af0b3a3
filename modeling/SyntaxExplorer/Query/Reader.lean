import SyntaxExplorer.Query.Step
/-!
Reading patterns.  The text of a query is read from the left; every step is noted with the place of its
text, and an error is told at the place where reading stopped.
-/

namespace SyntaxExplorer.Query

/-- A query that is being read. -/
structure Draft where
  rest : List Char
  offset : Nat := 0
  steps : Steps := #[]
  /-- Where the text of steps starts. -/
  places : Array (Nat × Nat) := #[]
  captures : Array String := #[]
  /-- The conditions of the pattern at hand. -/
  conditions : List Condition := []
  deriving Inhabited

abbrev ReadM := StateT Draft (Except QueryError)

/-- Blanks, of which only ASCII's count. -/
def isBlank (c : Char) : Bool :=
  c == ' ' || c == '\t' || c == '\n' || c == '\r' || c == '\x0b' || c == '\x0c'

def startsName (c : Char) : Bool := c.isAlphanum || c == '_' || c == '-'

def continuesName (c : Char) : Bool := startsName c || c == '.'

/-- The text after blanks and comments, and its offset. -/
def skipFrom (inComment : Bool) (offset : Nat) : List Char → List Char × Nat
  | [] => ([], offset)
  | c :: rest =>
    if inComment then
      if c = '\n' || c = '\x00' then
        if isBlank c then skipFrom false (offset + c.utf8Size) rest else (c :: rest, offset)
      else skipFrom true (offset + c.utf8Size) rest
    else if isBlank c then skipFrom false (offset + c.utf8Size) rest
    else if c = ';' then skipFrom true (offset + c.utf8Size) rest
    else (c :: rest, offset)

namespace ReadM

def fail (kind : QueryErrorKind) (offset : Nat) : ReadM α := throw ⟨kind, offset, ""⟩

/-- Fails where reading stopped. -/
def malformed : ReadM α := do fail .malformed (← get).offset

/-- The next character; none at the end, which a zero character counts as. -/
def peek : ReadM (Option Char) := do
  return (← get).rest.head?.filter (· ≠ '\x00')

def nextIs (c : Char) : ReadM Bool := return (← peek) == some c

def advance : ReadM Unit := modify fun draft => match draft.rest with
  | [] => draft
  | c :: rest => { draft with rest, offset := draft.offset + c.utf8Size }

def skip : ReadM Unit := modify fun draft =>
  let (rest, offset) := skipFrom false draft.offset draft.rest
  { draft with rest, offset }

/-- Passes a character and the blanks after it. -/
def advanceAndSkip : ReadM Unit := do
  advance
  skip

/-- Reads a name, which starts here. -/
def name : ReadM String := do
  let draft ← get
  let name := (draft.rest.take 1) ++ (draft.rest.drop 1).takeWhile continuesName
  set { draft with
    rest := draft.rest.drop name.length
    offset := draft.offset + Text.byteLength name }
  return String.ofList name

/-- Whether a name starts here. -/
def atName : ReadM Bool := return (← peek).any startsName

/-- The characters of a quoted text up to its end, and what follows; none if it has no end. -/
def quotedFrom (escaped : Bool) : List Char → Option (List Char × List Char)
  | [] => none
  | c :: rest =>
    if escaped then
      let meant := match c with
        | 'n' => '\n'
        | 'r' => '\r'
        | 't' => '\t'
        | '0' => '\x00'
        | other => other
      (quotedFrom false rest).map fun (text, rest) => (meant :: text, rest)
    else match c with
      | '\\' => quotedFrom true rest
      | '"' => some ([], rest)
      | '\n' => none
      | _ => (quotedFrom false rest).map fun (text, rest) => (c :: text, rest)

/-- Reads a quoted text, which starts here. -/
def quoted : ReadM String := do
  let draft ← get
  match quotedFrom false (draft.rest.drop 1) with
  | none => malformed
  | some (text, rest) =>
    let read := draft.rest.take (draft.rest.length - rest.length)
    set { draft with rest, offset := draft.offset + Text.byteLength read }
    return String.ofList text

def stepCount : ReadM Nat := return (← get).steps.size

def pushStep (step : Step) : ReadM Unit :=
  modify fun draft => { draft with steps := draft.steps.push step }

def changeSteps (change : Steps → Steps) : ReadM Unit :=
  modify fun draft => { draft with steps := change draft.steps }

def changeStep (index : Nat) (change : Step → Step) : ReadM Unit :=
  changeSteps (·.modify index change)

/-- Notes that the text of the next step starts here. -/
def notePlace : ReadM Unit := modify fun draft =>
  if draft.places.back?.map (·.1) == some draft.steps.size then draft
  else { draft with places := draft.places.push (draft.steps.size, draft.offset) }

/-- The number of a capture, which is new if its name is. -/
def captureNumber (name : String) : ReadM Nat := do
  let draft ← get
  match draft.captures.findIdx? (· == name) with
  | some number => return number
  | none =>
    set { draft with captures := draft.captures.push name }
    return draft.captures.size

/-- The kind of a name; fails at its place if there is none. -/
def kindNamed (language : Language) (name : String) (isNamed : Bool) (place : Nat) : ReadM Nat :=
  match language.kindNamed? name isNamed with
  | some kind => return kind
  | none => fail .unknownKind place

/-- Reads the arguments of a condition. -/
def readArguments : Nat → ReadM (List Argument)
  | 0 => malformed
  | fuel + 1 => do
    match ← peek with
    | some ')' =>
      advanceAndSkip
      return []
    | some '@' =>
      advance
      unless ← atName do malformed
      let place := (← get).offset
      let name ← name
      match (← get).captures.findIdx? (· == name) with
      | none => fail .unknownCapture place
      | some id =>
        skip
        return .capture id :: (← readArguments fuel)
    | some '"' =>
      let text ← quoted
      skip
      return .literal text :: (← readArguments fuel)
    | _ =>
      unless ← atName do malformed
      let text ← name
      skip
      return .literal text :: (← readArguments fuel)

/-- Reads a condition, after the sign that tells it from a node. -/
def readCondition (fuel : Nat) : ReadM Unit := do
  unless ← atName do malformed
  let name ← name
  match ← peek with
  | some mark =>
    unless mark = '?' || mark = '!' do malformed
    advanceAndSkip
    let arguments ← readArguments fuel
    modify fun draft =>
      { draft with conditions := draft.conditions ++ [⟨name.push mark, arguments⟩] }
  | none => malformed

/-- Links the branches of a choice: the start of each leads to the next branch as well, and its end
behind the choice. -/
def linkBranches (starts : List Nat) : ReadM Unit := do
  for (start, next) in starts.zip (starts.drop 1) do
    let stop ← stepCount
    changeStep start ({ · with alternative := some next })
    changeStep (next - 1) ({ · with alternative := some stop, isDeadEnd := true })

/-- Makes a step of the pattern at hand lead behind it as well. -/
def makeOptional (first bound : Nat) : ReadM Unit := do
  let stop ← stepCount
  changeSteps fun steps =>
    let last := (steps.chain (fun _ next => decide (next < bound)) first).getLast?.getD first
    steps.modify last ({ · with alternative := some stop })

/-- Adds a step that repeats the pattern at hand. -/
def repeatFrom (first depth : Nat) : ReadM Unit :=
  pushStep {
    depth, alternative := some first, isPassThrough := true, alternativeIsImmediate := true }

/-- Reads the repetitions and captures after a pattern. -/
def readSuffixes (first depth : Nat) : Nat → ReadM Unit
  | 0 => return
  | fuel + 1 => do
    match ← peek with
    | some '+' =>
      advanceAndSkip
      repeatFrom first depth
      readSuffixes first depth fuel
    | some '*' =>
      advanceAndSkip
      repeatFrom first depth
      makeOptional first ((← stepCount) - 1)
      readSuffixes first depth fuel
    | some '?' =>
      advanceAndSkip
      makeOptional first (← stepCount)
      readSuffixes first depth fuel
    | some '@' =>
      advance
      unless ← atName do malformed
      let number ← captureNumber (← name)
      skip
      changeSteps fun steps => steps.changeAll (steps.sameNode first) (·.addCapture number)
      readSuffixes first depth fuel
    | _ => return

/-- Reads the kind of a missing node. -/
def readMissing (language : Language) : ReadM (Option Nat) := do
  skip
  let place := (← get).offset
  if ← atName then
    return some (← kindNamed language (← name) true place)
  match ← peek with
  | some '"' => return some (← kindNamed language (← quoted) false (place + 1))
  | some ')' => return none
  | _ => malformed

/-- Reads the kind that a supertype has to stand for. -/
def readSubtype (language : Language) (supertype : Option Nat) (place : Nat) : ReadM Nat := do
  match supertype with
  | none => fail .impossiblePattern (place - 1)
  | some supertype =>
    advance
    let start := (← get).offset
    let kind ← if ← atName then kindNamed language (← name) true start
      else if ← nextIs '"' then kindNamed language (← quoted) false start
      else malformed
    match language.subtypesOf? supertype with
    | some kinds => unless kinds.contains kind do fail .impossiblePattern (place - 1)
    | none => return kind
    return kind

/-- Reads what names a node, as a step. -/
def readNodeName (language : Language) (depth : Nat) (isImmediate : Bool) : ReadM Step := do
  unless ← atName do malformed
  let place := (← get).offset
  let name ← name
  let isMissing := name ≠ "_" && "MISSING".startsWith name
  let kind ← if name = "_" then pure none
    else if isMissing then readMissing language
    else some <$> kindNamed language name true place
  let isSupertype := kind.any fun kind => (language.symbolInfo kind).isSupertype
  let step : Step := {
    depth, isImmediate, isMissing
    kind := if isSupertype then none else kind
    supertype := if isSupertype then kind else none
    isNamed := kind.isNone }
  if ← nextIs '/' then
    return { step with kind := some (← readSubtype language step.supertype place) }
  return step

/-- Marks the steps that stand for the last child of a node. -/
def markLastChild (last : Nat) : ReadM Unit :=
  changeSteps fun steps =>
    steps.changeAll (steps.chain (fun _ next => decide (next < steps.size)) last)
      ({ · with isLastChild := true })

mutual

/-- Reads a pattern at a depth; says whether the list around it ended instead. -/
def readPattern (language : Language) : Nat → Nat → Bool → ReadM Bool
  | 0, _, _ => malformed
  | fuel + 1, depth, isImmediate => do
    let next ← peek
    if next == some ')' || next == some ']' then
      return true
    if next.isNone then
      malformed
    let first ← stepCount
    notePlace
    if next == some '[' then
      advanceAndSkip
      linkBranches (← readBranches language fuel depth isImmediate)
    else if next == some '(' then
      advanceAndSkip
      match ← peek with
      | some '(' | some '"' | some '[' => readGroup language fuel depth isImmediate
      | some '.' | some '#' =>
        advance
        readCondition fuel
        return false
      | _ =>
        pushStep (← readNodeName language depth isImmediate)
        skip
        readChildren language fuel first (depth + 1) false none []
    else if next == some '_' then
      advanceAndSkip
      pushStep { depth, isImmediate }
    else if next == some '"' then
      let place := (← get).offset
      let kind ← kindNamed language (← quoted) false (place + 1)
      pushStep { kind := some kind, depth, isImmediate }
    else if ← atName then
      readField language fuel depth isImmediate
    else
      malformed
    skip
    readSuffixes first depth fuel
    return false

/-- Reads the branches of a choice, and says where each starts. -/
def readBranches (language : Language) : Nat → Nat → Bool → ReadM (List Nat)
  | 0, _, _ => malformed
  | fuel + 1, depth, isImmediate => do
    let start ← stepCount
    if ← readPattern language fuel depth isImmediate then
      malformed
    if ← nextIs ']' then
      advance
      return [start]
    pushStep { depth }
    return start :: (← readBranches language fuel depth isImmediate)

/-- Reads a sequence of patterns. -/
def readGroup (language : Language) : Nat → Nat → Bool → ReadM Unit
  | 0, _, _ => malformed
  | fuel + 1, depth, isImmediate => do
    let isAnchored ← nextIs '.'
    if isAnchored then
      advanceAndSkip
    if ← readPattern language fuel depth (isImmediate || isAnchored) then
      unless ← nextIs ')' do malformed
      advance
    else
      readGroup language fuel depth false

/-- Reads the children of a node, of which the step is given with the last child so far and the fields
that the node must not have. -/
def readChildren (language : Language) :
    Nat → Nat → Nat → Bool → Option Nat → List Nat → ReadM Unit
  | 0, _, _, _, _, _ => malformed
  | fuel + 1, parent, depth, isImmediate, last, absent => do
    if ← nextIs '!' then
      advanceAndSkip
      unless ← atName do malformed
      let place := (← get).offset
      let name ← name
      skip
      match language.fieldNamed? name with
      | none => fail .unknownField place
      | some field => readChildren language fuel parent depth isImmediate last (absent ++ [field])
    else
      let isAnchored ← nextIs '.'
      if isAnchored then
        advanceAndSkip
      let isImmediate := isImmediate || isAnchored
      let start ← stepCount
      if ← readPattern language fuel depth isImmediate then
        unless ← nextIs ')' do malformed
        if isImmediate then
          match last with
          | none | some 0 => malformed
          | some last => markLastChild last
        unless absent.isEmpty do
          changeStep parent ({ · with absentFields := absent.take Step.maxAbsentFields })
        advance
      else
        let isEmpty := (← stepCount) == start
        readChildren language fuel parent depth false
          (some (if isEmpty then start - 1 else start)) absent

/-- Reads a pattern with the field that its node fills. -/
def readField (language : Language) : Nat → Nat → Bool → ReadM Unit
  | 0, _, _ => malformed
  | fuel + 1, depth, isImmediate => do
    let place := (← get).offset
    let name ← name
    skip
    unless ← nextIs ':' do fail .malformed place
    advanceAndSkip
    let first ← stepCount
    if ← readPattern language fuel depth isImmediate then
      malformed
    match language.fieldNamed? name with
    | none => fail .unknownField place
    | some field =>
      changeSteps fun steps =>
        steps.changeAll (steps.sameNode first) ({ · with field := some field })

end

end ReadM

end SyntaxExplorer.Query
