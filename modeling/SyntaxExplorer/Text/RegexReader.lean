import SyntaxExplorer.Text.Regex
/-!
Reading regular expressions from their usual notation: classes, groups, flags, repetitions and anchors.
-/

namespace SyntaxExplorer.Regex

/-- The flags in force. -/
structure Flags where
  ignoreCase : Bool := false
  multiLine : Bool := false
  dotMatchesAll : Bool := false
  verbose : Bool := false
  ascii : Bool := false

/-- A test of characters, and the text after it. -/
abbrev ReadTest := Option ((Char → Bool) × List Char)

def isWithin (low high : Char) (c : Char) : Bool := low ≤ c && c ≤ high

/-- A test of a class under flags. -/
def classTest (flags : Flags) (letter : Char) : Option (Char → Bool) :=
  let plain : Option (Char → Bool) := match letter.toLower with
    | 'd' => some (if flags.ascii then Char.isDigit else CharacterClass.digit.contains)
    | 's' => some (if flags.ascii then fun c => " \t\n\r\x0b\x0c".contains c
        else CharacterClass.whiteSpace.contains)
    | 'w' => some (if flags.ascii then fun c => c.isAlphanum || c == '_'
        else CharacterClass.word.contains)
    | _ => none
  plain.map fun test => if letter.isUpper then fun c => !test c else test

/-- A test that does not tell the cases of letters apart, if the flags say so. -/
def foldCase (flags : Flags) (test : Char → Bool) : Char → Bool :=
  if flags.ignoreCase then fun c => test c || test c.toLower || test c.toUpper else test

def hexValue? (c : Char) : Option Nat :=
  if c.isDigit then some (c.toNat - '0'.toNat)
  else if isWithin 'a' 'f' c.toLower then some (c.toLower.toNat - 'a'.toNat + 10)
  else none

/-- The character of some hexadecimal digits. -/
def hexCharacter? (digits : List Char) : Option Char := do
  let values ← digits.mapM hexValue?
  let code := values.foldl (fun code digit => code * 16 + digit) 0
  if digits.isEmpty || 8 < digits.length then none
  else if Nat.isValidChar code then some (Char.ofNat code) else none

/-- Reads a character by its number: a fixed count of digits, or any in braces. -/
def readHex (count : Nat) : List Char → Option (Char × List Char)
  | '\x7b' :: rest =>
    let digits := rest.takeWhile (· != '\x7d')
    match rest.drop digits.length with
    | _ :: rest => (hexCharacter? digits).map (·, rest)
    | [] => none
  | rest =>
    if rest.length < count then none
    else (hexCharacter? (rest.take count)).map (·, rest.drop count)

/-- Reads an escaped character, after the backslash. -/
def readEscaped : List Char → Option (Char × List Char)
  | 'n' :: rest => some ('\n', rest)
  | 't' :: rest => some ('\t', rest)
  | 'r' :: rest => some ('\r', rest)
  | 'f' :: rest => some ('\x0c', rest)
  | 'v' :: rest => some ('\x0b', rest)
  | 'a' :: rest => some ('\x07', rest)
  | 'x' :: rest => readHex 2 rest
  | 'u' :: rest => readHex 4 rest
  | 'U' :: rest => readHex 8 rest
  | c :: rest =>
    if isWithin ' ' '~' c && !c.isAlphanum && c != '<' && c != '>' then some (c, rest) else none
  | [] => none

/-- The classes that have names within brackets. -/
def namedClass? : String → Option (Char → Bool)
  | "alnum" => some Char.isAlphanum
  | "alpha" => some Char.isAlpha
  | "ascii" => some (isWithin '\x00' '\x7f')
  | "blank" => some fun c => c == ' ' || c == '\t'
  | "cntrl" => some fun c => c < ' ' || c == '\x7f'
  | "digit" => some Char.isDigit
  | "graph" => some (isWithin '!' '~')
  | "lower" => some Char.isLower
  | "print" => some (isWithin ' ' '~')
  | "punct" => some fun c => isWithin '!' '~' c && !c.isAlphanum
  | "space" => some fun c => isWithin '\t' '\x0d' c || c == ' '
  | "upper" => some Char.isUpper
  | "word" => some fun c => c.isAlphanum || c == '_'
  | "xdigit" => some fun c => (hexValue? c).isSome
  | _ => none

/-- Reads a named class within brackets, after its opening. -/
def readNamedClass (chars : List Char) : ReadTest :=
  let (negated, chars) := match chars with
    | '^' :: rest => (true, rest)
    | _ => (false, chars)
  let name := chars.takeWhile Char.isLower
  match chars.drop name.length, namedClass? (String.ofList name) with
  | ':' :: ']' :: rest, some test => some (if negated then fun c => !test c else test, rest)
  | _, _ => none

/-- How two classes within brackets combine. -/
inductive ClassOperator
  | both
  | without
  | notBoth

def ClassOperator.apply (left right : Char → Bool) : ClassOperator → Char → Bool
  | both, c => left c && right c
  | without, c => left c && !right c
  | notBoth, c => left c != right c

/-- A class within brackets that is being read: what is combined so far, and the members since. -/
structure ClassDraft where
  combined : Option ((Char → Bool) × ClassOperator) := none
  members : Char → Bool := fun _ => false

def ClassDraft.add (draft : ClassDraft) (test : Char → Bool) : ClassDraft :=
  { draft with members := fun c => draft.members c || test c }

def ClassDraft.test (draft : ClassDraft) : Char → Bool :=
  match draft.combined with
  | some (left, operator) => operator.apply left draft.members
  | none => draft.members

/-- Reads one end of a range: a plain or an escaped character. -/
def readRangeEnd : List Char → Option (Char × List Char)
  | '\\' :: rest => readEscaped rest
  | '[' :: _ | ']' :: _ => none
  | c :: rest => some (c, rest)
  | [] => none

mutual

/-- Reads a class, after its opening bracket. -/
def readClass (flags : Flags) : Nat → List Char → ReadTest
  | 0, _ => none
  | fuel + 1, chars =>
    let (negated, chars) := match chars with
      | '^' :: rest => (true, rest)
      | _ => (false, chars)
    let dashes := chars.takeWhile (· == '-')
    let chars := chars.drop dashes.length
    let draft : ClassDraft := if dashes.isEmpty then {} else { members := (· == '-') }
    let (draft, chars) : ClassDraft × List Char := match dashes, chars with
      | [], ']' :: rest => ({ members := (· == ']') }, rest)
      | _, _ => (draft, chars)
    (readMembers flags fuel draft chars).map fun (test, rest) =>
      (if negated then fun c => !test c else test, rest)

/-- Reads the members of a class up to its closing bracket. -/
def readMembers (flags : Flags) : Nat → ClassDraft → List Char → ReadTest
  | 0, _, _ => none
  | fuel + 1, draft, chars =>
    let combine (operator : ClassOperator) (rest : List Char) : ReadTest :=
      readMembers flags fuel { combined := some (draft.test, operator) } rest
    let member (test : Char → Bool) (rest : List Char) : ReadTest :=
      readMembers flags fuel (draft.add test) rest
    match chars with
    | [] => none
    | ']' :: rest => some (draft.test, rest)
    | '&' :: '&' :: rest => combine .both rest
    | '-' :: '-' :: rest => combine .without rest
    | '~' :: '~' :: rest => combine .notBoth rest
    | '[' :: ':' :: rest => match readNamedClass rest with
      | some (test, rest) => member (foldCase flags test) rest
      | none => (readClass flags fuel (':' :: rest)).bind fun (test, rest) => member test rest
    | '[' :: rest => (readClass flags fuel rest).bind fun (test, rest) => member test rest
    | c :: rest =>
      if flags.verbose && CharacterClass.whiteSpace.contains c then
        readMembers flags fuel draft rest
      else match (if c = '\\' then rest.head?.bind (classTest flags) else none) with
        | some test => member test (rest.drop 1)
        | none => match readRangeEnd (c :: rest) with
          | none => none
          | some (low, '-' :: ']' :: rest) =>
            member (foldCase flags fun c => c == low || c == '-') (']' :: rest)
          | some (low, '-' :: '-' :: rest) =>
            member (foldCase flags (· == low)) ('-' :: '-' :: rest)
          | some (low, '-' :: rest) => (readRangeEnd rest).bind fun (high, rest) =>
            if low ≤ high then member (foldCase flags (isWithin low high)) rest else none
          | some (low, rest) => member (foldCase flags (· == low)) rest

end

/-- Reads the flags of a group: those turned on, then those turned off. -/
def readFlags (on : Bool) (flags : Flags) : List Char → Option (Flags × List Char)
  | 'i' :: rest => readFlags on { flags with ignoreCase := on } rest
  | 'm' :: rest => readFlags on { flags with multiLine := on } rest
  | 's' :: rest => readFlags on { flags with dotMatchesAll := on } rest
  | 'x' :: rest => readFlags on { flags with verbose := on } rest
  | 'u' :: rest => readFlags on { flags with ascii := !on } rest
  | 'U' :: rest | 'R' :: rest => readFlags on flags rest
  | '-' :: rest => if on then readFlags false flags rest else none
  | rest => some (flags, rest)

/-- Reads a count. -/
def readCount (chars : List Char) : Option (Nat × List Char) :=
  let digits := chars.takeWhile Char.isDigit
  if digits.isEmpty then none
  else some (digits.foldl (fun count digit => count * 10 + (digit.toNat - '0'.toNat)) 0,
    chars.drop digits.length)

/-- Reads the least and the most count of a repetition, after its opening brace. -/
def readBounds (chars : List Char) : Option ((Nat × Option Nat) × List Char) := do
  let (least, rest) ← readCount chars
  match rest with
  | '\x7d' :: rest => some ((least, some least), rest)
  | ',' :: '\x7d' :: rest => some ((least, none), rest)
  | ',' :: rest => match ← readCount rest with
    | (most, '\x7d' :: rest) => if least ≤ most then some ((least, some most), rest) else none
    | _ => none
  | _ => none

/-- Reads the sign of a repetition; the text is no repetition if there is none. -/
def readRepetition : List Char → Option (Option ((Nat × Option Nat) × List Char))
  | '*' :: rest => some (some ((0, none), rest))
  | '+' :: rest => some (some ((1, none), rest))
  | '?' :: rest => some (some ((0, some 1), rest))
  | '\x7b' :: rest => some (readBounds rest)
  | _ => none

/-- The name of a group, and the text after it. -/
def readGroupName (chars : List Char) : Option (List Char) :=
  let isInner (c : Char) : Bool := c.isAlphanum || c == '_' || c == '.' || c == '[' || c == ']'
  let name := chars.takeWhile isInner
  match name, chars.drop name.length with
  | first :: _, '>' :: rest => if first.isAlpha || first == '_' then some rest else none
  | _, _ => none

/-- An expression that is being read: branches, the sequence at hand, and its last part, which a
repetition repeats. -/
structure Draft where
  branches : List Regex := []
  before : Regex := .empty
  last : Option Regex := none

namespace Draft

def sequence (draft : Draft) : Regex :=
  match draft.last with
  | some last => .seq draft.before last
  | none => draft.before

def add (draft : Draft) (part : Regex) : Draft :=
  { draft with before := draft.sequence, last := some part }

/-- Ends the sequence at hand. -/
def branch (draft : Draft) : Draft := { branches := draft.branches ++ [draft.sequence] }

/-- Keeps what was read from being repeated. -/
def close (draft : Draft) : Draft := { draft with before := draft.sequence, last := none }

def finish (draft : Draft) : Regex :=
  draft.branches.foldr .either draft.sequence

end Draft

/-- The anchor or the class that a letter after a backslash names. -/
def escapedPart? (flags : Flags) : Char → Option Regex
  | 'b' => some (.anchor .wordBoundary)
  | 'B' => some (.anchor .noWordBoundary)
  | 'A' => some (.anchor .textStart)
  | 'z' => some (.anchor .textEnd)
  | '<' => some (.anchor .wordStart)
  | '>' => some (.anchor .wordEnd)
  | c => (classTest flags c).map .one

mutual

/-- Reads an expression up to its end, or up to the end of the group around it. -/
def readBody : Nat → Flags → Draft → List Char → Option (Regex × List Char)
  | 0, _, _, _ => none
  | fuel + 1, flags, draft, chars =>
    let part (part : Regex) (rest : List Char) : Option (Regex × List Char) :=
      readBody fuel flags (draft.add part) rest
    match readRepetition chars with
    | some none => none
    | some (some ((least, most), rest)) =>
      match draft.last with
      | none => none
      | some last =>
        let rest := if rest.head? == some '?' then rest.drop 1 else rest
        readBody fuel flags { draft with last := some (.repeated last least most) } rest
    | none => match chars with
      | [] => some (draft.finish, [])
      | ')' :: rest => some (draft.finish, ')' :: rest)
      | '|' :: rest => readBody fuel flags draft.branch rest
      | '(' :: '?' :: rest => readSpecialGroup fuel flags draft rest
      | '(' :: rest => readGroup fuel flags flags draft rest
      | '[' :: rest => (readClass flags fuel rest).bind fun (test, rest) => part (.one test) rest
      | '.' :: rest => part (.one fun c => flags.dotMatchesAll || c != '\n') rest
      | '^' :: rest => part (.anchor (if flags.multiLine then .lineStart else .textStart)) rest
      | '$' :: rest => part (.anchor (if flags.multiLine then .lineEnd else .textEnd)) rest
      | '\\' :: rest => match rest.head?.bind (escapedPart? flags) with
        | some escaped => part escaped (rest.drop 1)
        | none => (readEscaped rest).bind fun (c, rest) =>
          part (.one (foldCase flags (· == c))) rest
      | c :: rest =>
        if flags.verbose && CharacterClass.whiteSpace.contains c then
          readBody fuel flags draft rest
        else if flags.verbose && c = '#' then
          readBody fuel flags draft (rest.dropWhile (· != '\n'))
        else part (.one (foldCase flags (· == c))) rest

/-- Reads a group after its opening parenthesis, under flags of its own. -/
def readGroup : Nat → Flags → Flags → Draft → List Char → Option (Regex × List Char)
  | 0, _, _, _, _ => none
  | fuel + 1, outer, inner, draft, chars =>
    match readBody fuel inner {} chars with
    | some (group, ')' :: rest) => readBody fuel outer (draft.add group) rest
    | _ => none

/-- Reads a group that has a name or flags, or flags that hold up to the end of the group around
them. -/
def readSpecialGroup : Nat → Flags → Draft → List Char → Option (Regex × List Char)
  | 0, _, _, _ => none
  | fuel + 1, flags, draft, chars =>
    match chars with
    | 'P' :: '<' :: rest | '<' :: rest =>
      (readGroupName rest).bind (readGroup fuel flags flags draft)
    | _ => match readFlags true flags chars with
      | some (inner, ':' :: rest) => readGroup fuel flags inner draft rest
      | some (inner, ')' :: rest) =>
        if chars.head? == some ')' then none else readBody fuel inner draft.close rest
      | _ => none

end

/-- Reads an expression; none if the text is none. -/
def ofText? (text : String) : Option Regex :=
  match readBody (2 * text.length + 2) {} {} text.toList with
  | some (regex, []) => some regex
  | _ => none

end SyntaxExplorer.Regex
