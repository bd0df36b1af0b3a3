/-!
JSON values, as far as a text says them.  A text that breaks off or goes wrong is still read up to that
place, so that whatever reads the value meets faults in the order of the text.
-/

namespace SyntaxExplorer.Wire

/-- What is wrong with a text: it is no JSON, it has another shape than expected, or it ends early. -/
inductive Fault
  | malformed
  | mismatched
  | truncated
  deriving BEq, DecidableEq, Repr

/-- How a list or an object ends: as it should, with a fault in the place of a comma, or with a fault
after a comma. -/
inductive Ending
  | closed
  | unseparated (fault : Fault)
  | dangling (fault : Fault)
  deriving BEq, DecidableEq, Repr

def Ending.fault? : Ending → Option Fault
  | closed => none
  | unseparated fault | dangling fault => some fault

mutual

/-- A value.  A spoiled one is well formed, but no value belongs to it; it may only be skipped. -/
inductive Json
  | null
  | boolean (value : Bool)
  | integer (value : Int)
  | fraction
  | text (value : String)
  | spoiled
  | broken (fault : Fault)
  | list (items : JsonItems)
  | object (entries : JsonEntries)

inductive JsonItems
  | done (ending : Ending)
  | more (first : Json) (rest : JsonItems)

inductive JsonEntries
  | done (ending : Ending)
  | more (key : String) (value : Json) (rest : JsonEntries)

end

instance : Inhabited Json := ⟨.null⟩

/-- A list of values. -/
def JsonItems.ofList : List Json → JsonItems
  | [] => .done .closed
  | first :: rest => .more first (ofList rest)

/-- An object of entries in order. -/
def JsonEntries.ofList : List (String × Json) → JsonEntries
  | [] => .done .closed
  | (key, value) :: rest => .more key value (ofList rest)

def JsonEntries.toList : JsonEntries → List (String × Json)
  | .done _ => []
  | .more key value rest => (key, value) :: rest.toList

mutual

/-- The first fault of a value.  A spoiled value is one unless it is `skipped`. -/
def Json.fault? (skipped : Bool) : Json → Option Fault
  | .null | .boolean _ | .integer _ | .fraction | .text _ => none
  | .spoiled => if skipped then none else some .malformed
  | .broken fault => some fault
  | .list items => items.fault? skipped
  | .object entries => entries.fault? skipped

def JsonItems.fault? (skipped : Bool) : JsonItems → Option Fault
  | .done ending => ending.fault?
  | .more first rest => first.fault? skipped <|> rest.fault? skipped

def JsonEntries.fault? (skipped : Bool) : JsonEntries → Option Fault
  | .done ending => ending.fault?
  | .more _ value rest => value.fault? skipped <|> rest.fault? skipped

end

/-! Writing. -/

/-- The digits of a hexadecimal number below sixteen. -/
def hexDigit (n : Nat) : Char := (Nat.toDigits 16 n).headD '0'

/-- How a character stands in a quoted text. -/
def escaped (c : Char) : List Char :=
  match c with
  | '"' => ['\\', '"']
  | '\\' => ['\\', '\\']
  | '\x08' => ['\\', 'b']
  | '\x0C' => ['\\', 'f']
  | '\n' => ['\\', 'n']
  | '\r' => ['\\', 'r']
  | '\t' => ['\\', 't']
  | c =>
    if c.toNat < 0x20 then
      ['\\', 'u', '0', '0', hexDigit (c.toNat / 16), hexDigit (c.toNat % 16)]
    else [c]

/-- A text in quotes. -/
def quoted (text : String) : List Char := '"' :: text.toList.flatMap escaped ++ ['"']

mutual

/-- The text of a value, without any space.  Only values without faults have one. -/
def Json.write : Json → List Char
  | .null | .fraction | .spoiled | .broken _ => "null".toList
  | .boolean value => if value then "true".toList else "false".toList
  | .integer value => (toString value).toList
  | .text value => quoted value
  | .list items => '[' :: items.write true
  | .object entries => '\x7b' :: entries.write true

def JsonItems.write (isFirst : Bool) : JsonItems → List Char
  | .done _ => [']']
  | .more first rest => (if isFirst then [] else [',']) ++ first.write ++ rest.write false

def JsonEntries.write (isFirst : Bool) : JsonEntries → List Char
  | .done _ => ['\x7d']
  | .more key value rest =>
    (if isFirst then [] else [',']) ++ quoted key ++ ':' :: value.write ++ rest.write false

end

def Json.render (json : Json) : String := String.ofList json.write

/-! Reading. -/

def isJsonSpace (c : Char) : Bool := c == ' ' || c == '\n' || c == '\t' || c == '\r'

def skipSpace (chars : List Char) : List Char := chars.dropWhile isJsonSpace

/-- The value of a hexadecimal digit. -/
def hexValue? (c : Char) : Option Nat :=
  if c.isDigit then some (c.toNat - '0'.toNat)
  else if 'a' ≤ c ∧ c ≤ 'f' then some (c.toNat - 'a'.toNat + 10)
  else if 'A' ≤ c ∧ c ≤ 'F' then some (c.toNat - 'A'.toNat + 10)
  else none

/-- What a quoted text consists of: characters, and numbers of UTF-16 units. -/
inductive TextPiece
  | character (c : Char)
  | unit (value : Nat)
  deriving BEq, DecidableEq, Repr

/-- The pieces of a quoted text up to its closing quote, with what follows. -/
def readPieces : List Char → Except Fault (List TextPiece × List Char)
  | [] => .error .truncated
  | '"' :: rest => .ok ([], rest)
  | '\\' :: 'u' :: a :: b :: c :: d :: rest =>
    match hexValue? a, hexValue? b, hexValue? c, hexValue? d with
    | some a, some b, some c, some d =>
      (readPieces rest).map fun (pieces, rest) =>
        (.unit (((a * 16 + b) * 16 + c) * 16 + d) :: pieces, rest)
    | _, _, _, _ => .error .malformed
  | '\\' :: c :: rest =>
    let plain (c : Char) := (readPieces rest).map fun (pieces, rest) =>
      (TextPiece.character c :: pieces, rest)
    match c with
    | '"' | '\\' | '/' => plain c
    | 'b' => plain '\x08'
    | 'f' => plain '\x0C'
    | 'n' => plain '\n'
    | 'r' => plain '\r'
    | 't' => plain '\t'
    | 'u' => .error .truncated
    | _ => .error .malformed
  | c :: rest =>
    if c = '\\' then .error .truncated
    else if c.toNat < 0x20 then .error .malformed
    else (readPieces rest).map fun (pieces, rest) => (.character c :: pieces, rest)

/-- The characters of pieces; surrogates count in pairs only. -/
def joinPieces : List TextPiece → Option (List Char)
  | [] => some []
  | .character c :: rest => (joinPieces rest).map (c :: ·)
  | .unit high :: .unit low :: rest =>
    if 0xD800 ≤ high ∧ high < 0xDC00 then
      if 0xDC00 ≤ low ∧ low < 0xE000 then
        (joinPieces rest).map
          (Char.ofNat (0x10000 + (high - 0xD800) * 0x400 + (low - 0xDC00)) :: ·)
      else none
    else if 0xDC00 ≤ high ∧ high < 0xE000 then none
    else (joinPieces (.unit low :: rest)).map (Char.ofNat high :: ·)
  | .unit value :: rest =>
    if 0xD800 ≤ value ∧ value < 0xE000 then none
    else (joinPieces rest).map (Char.ofNat value :: ·)

/-- A quoted text, from behind its opening quote on. -/
def readText (chars : List Char) : Except Fault (Option String × List Char) :=
  (readPieces chars).map fun (pieces, rest) => ((joinPieces pieces).map String.ofList, rest)

def digitsValue (digits : List Char) : Nat :=
  digits.foldl (fun value c => value * 10 + (c.toNat - '0'.toNat)) 0

/-- The greatest number of bits of an integer. -/
def integerBits : Nat := 64

/-- The value of a number without a fraction. -/
def integerValue (isNegative : Bool) (digits : List Char) : Json :=
  let value := digitsValue digits
  if isNegative then
    if 0 < value ∧ value ≤ Nat.pow 2 (integerBits - 1) then .integer (-value) else .fraction
  else if value < Nat.pow 2 integerBits then .integer value
  else .fraction

/-- The value of a number with a fraction or an exponent, unless it is beyond all numbers. -/
def fractionValue (digits fraction : List Char) (exponent : Int) : Json :=
  let significand := digitsValue (digits ++ fraction)
  let scale := exponent - fraction.length
  if significand = 0 then .fraction
  else if 400 < scale then .spoiled
  else if 0 ≤ scale ∧
      Nat.pow 2 1024 - Nat.pow 2 970 ≤ significand * Nat.pow 10 scale.toNat then .spoiled
  else .fraction

/-- The exponent of a number, if it has one, with what follows. -/
def readExponent : List Char → Except Fault (Option Int × List Char)
  | c :: rest =>
    if c = 'e' ∨ c = 'E' then
      let (isNegative, rest) := match rest with
        | '-' :: rest => (true, rest)
        | '+' :: rest => (false, rest)
        | rest => (false, rest)
      match rest.takeWhile Char.isDigit, rest with
      | [], [] => .error .truncated
      | [], _ => .error .malformed
      | digits, rest =>
        let value : Int := digitsValue digits
        .ok (some (if isNegative then -value else value), rest.dropWhile Char.isDigit)
    else .ok (none, c :: rest)
  | [] => .ok (none, [])

/-- A number without its sign, with what follows. -/
def readNumber (isNegative : Bool) (chars : List Char) : Except Fault (Json × List Char) := do
  let digits := chars.takeWhile Char.isDigit
  let rest := chars.dropWhile Char.isDigit
  match digits, rest with
  | [], [] => throw .truncated
  | [], _ => throw .malformed
  | '0' :: _ :: _, _ => throw .malformed
  | digits, '.' :: rest =>
    let fraction := rest.takeWhile Char.isDigit
    let rest := rest.dropWhile Char.isDigit
    if fraction.isEmpty then
      throw (if rest.isEmpty then .truncated else .malformed)
    let (exponent, rest) ← readExponent rest
    return (fractionValue digits fraction (exponent.getD 0), rest)
  | digits, rest =>
    let (exponent, rest) ← readExponent rest
    match exponent with
    | some exponent => return (fractionValue digits [] exponent, rest)
    | none => return (integerValue isNegative digits, rest)

/-- One of the words of the language, of which the first letter was seen. -/
def readWord (value : Json) : List Char → List Char → Json × Option (List Char)
  | [], rest => (value, some rest)
  | _ :: _, [] => (.broken .truncated, none)
  | expected :: word, c :: rest =>
    if c = expected then readWord value word rest else (.broken .malformed, none)

mutual

/-- The value at the start of a text, with what follows unless the value is broken.  `fuel` bounds the
number of brackets and values. -/
def readValue : Nat → List Char → Json × Option (List Char)
  | 0, _ => (.broken .malformed, none)
  | fuel + 1, chars =>
    match skipSpace chars with
    | [] => (.broken .truncated, none)
    | '"' :: rest => match readText rest with
      | .ok (some text, rest) => (.text text, some rest)
      | .ok (none, rest) => (.spoiled, some rest)
      | .error fault => (.broken fault, none)
    | '[' :: rest => let (items, rest) := readItems fuel true rest; (.list items, rest)
    | '\x7b' :: rest => let (entries, rest) := readEntries fuel true rest; (.object entries, rest)
    | 't' :: rest => readWord (.boolean true) "rue".toList rest
    | 'f' :: rest => readWord (.boolean false) "alse".toList rest
    | 'n' :: rest => readWord .null "ull".toList rest
    | c :: rest =>
      if c = '-' ∨ c.isDigit then
        match readNumber (c = '-') (if c = '-' then rest else c :: rest) with
        | .ok (value, rest) => (value, some rest)
        | .error fault => (.broken fault, none)
      else (.broken .malformed, none)

/-- The rest of a list. -/
def readItems : Nat → Bool → List Char → JsonItems × Option (List Char)
  | 0, _, _ => (.done (.unseparated .malformed), none)
  | fuel + 1, isFirst, chars =>
    let item (chars : List Char) :=
      match readValue fuel chars with
      | (value, some rest) =>
        let (items, rest) := readItems fuel false rest
        (JsonItems.more value items, rest)
      | (value, none) => (.more value (.done .closed), none)
    match skipSpace chars with
    | [] => (.done (.unseparated .truncated), none)
    | ']' :: rest => (.done .closed, some rest)
    | c :: rest =>
      if isFirst then item (c :: rest)
      else if c = ',' then
        match skipSpace rest with
        | [] => (.done (.dangling .truncated), none)
        | ']' :: _ => (.done (.dangling .malformed), none)
        | rest => item rest
      else (.done (.unseparated .malformed), none)

/-- The rest of an object. -/
def readEntries : Nat → Bool → List Char → JsonEntries × Option (List Char)
  | 0, _, _ => (.done (.unseparated .malformed), none)
  | fuel + 1, isFirst, chars =>
    let entry (isFirst : Bool) (chars : List Char) :=
      let broken (fault : Fault) :=
        (JsonEntries.done (if isFirst then .unseparated fault else .dangling fault), none)
      match chars with
      | '"' :: rest => match readText rest with
        | .error fault => broken fault
        | .ok (none, _) => broken .malformed
        | .ok (some key, rest) => match skipSpace rest with
          | [] => (.more key (.broken .truncated) (.done .closed), none)
          | ':' :: rest => match readValue fuel rest with
            | (value, some rest) =>
              let (entries, rest) := readEntries fuel false rest
              (.more key value entries, rest)
            | (value, none) => (.more key value (.done .closed), none)
          | _ => (.more key (.broken .malformed) (.done .closed), none)
      | [] => broken .truncated
      | _ => broken .malformed
    match skipSpace chars with
    | [] => (.done (.unseparated .truncated), none)
    | '\x7d' :: rest => (.done .closed, some rest)
    | c :: rest =>
      if isFirst then entry true (c :: rest)
      else if c = ',' then entry false (skipSpace rest)
      else (.done (.unseparated .malformed), none)

end

/-- A text as a value, with what follows it. -/
def Json.parse (text : String) : Json × Option (List Char) :=
  readValue (2 * text.length + 2) text.toList

end SyntaxExplorer.Wire
