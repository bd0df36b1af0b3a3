/-!
Hosts in numbers: four bytes with dots between them, which may be run together and in several bases,
and eight pieces with colons between them, a run of which may be left out.
-/

namespace SyntaxExplorer.Uri

/-- The value of a digit in a base of at most thirty-six, in either case. -/
def digitValue? (base : Nat) (c : Char) : Option Nat :=
  let value :=
    if c.isDigit then c.toNat - '0'.toNat
    else if c.isAlpha then c.toLower.toNat - 'a'.toNat + 10
    else base
  if value < base then some value else none

/-- The number that some digits stand for in a base; no digits stand for zero. -/
def numeral? (base : Nat) (digits : List Char) : Option Nat :=
  digits.foldlM (fun value c => (digitValue? base c).map (value * base + ·)) 0

/-- The number that a part of a dotted address stands for: in base sixteen behind `0x`, in base eight
behind a zero, and else in base ten. -/
def partValue? : List Char → Option Nat
  | [] => none
  | '0' :: 'x' :: digits | '0' :: 'X' :: digits => numeral? 16 digits
  | '0' :: first :: digits => numeral? 8 (first :: digits)
  | digits => numeral? 10 digits

/-- The parts between the dots of a name.  A dot at its end does not count. -/
def dottedParts (name : List Char) : List (List Char) :=
  let parts := name.splitOn '.'
  if 1 < parts.length && parts.getLast? == some [] then parts.dropLast else parts

/-- Whether the last part of a name is a number.  Only addresses may be such names. -/
def endsInNumber (name : List Char) : Bool :=
  let last := (dottedParts name).getLast?.getD []
  (!last.isEmpty && last.all Char.isDigit) || (partValue? last).isSome

/-- Whether a name is a dotted address.  All parts but the last are bytes; the last has as many bytes as
are left. -/
def isDottedAddress (name : List Char) : Bool :=
  let parts := dottedParts name
  match parts.mapM partValue? with
  | none => false
  | some values =>
    values.length ≤ 4 && values.dropLast.all (· < 256) &&
      values.getLast?.getD 0 < Nat.pow 256 (5 - values.length)

/-- Whether a text is a byte in base ten, without needless zeros. -/
def isPlainByte (digits : List Char) : Bool :=
  !digits.isEmpty && (digits.length == 1 || digits.head? != some '0') &&
    match numeral? 10 digits with
    | some value => value < 256
    | none => false

/-- Whether a text is four bytes in base ten with dots between them. -/
def isPlainDottedAddress (text : List Char) : Bool :=
  let parts := text.splitOn '.'
  parts.length == 4 && parts.all isPlainByte

/-- Whether a text completes an address of eight pieces.  `count` pieces came before it, and a run of
pieces was left out if `isShort`.  The last two pieces may be a dotted address.  `fuel` is above the
length of the text. -/
def completesPieces : Nat → Nat → Bool → List Char → Bool
  | 0, _, _, _ => false
  | _ + 1, count, isShort, [] => isShort || count == 8
  | fuel + 1, count, isShort, ':' :: rest =>
    count < 8 && !isShort && completesPieces fuel (count + 1) true rest
  | fuel + 1, count, isShort, chars =>
    let digits := (chars.take 4).takeWhile fun c => (digitValue? 16 c).isSome
    match chars.drop digits.length with
    | [] => count < 8 && (isShort || count == 7)
    | '.' :: _ => count ≤ 6 && (isShort || count == 6) && isPlainDottedAddress chars
    | ':' :: rest => count < 8 && !rest.isEmpty && completesPieces fuel (count + 1) isShort rest
    | _ => false

/-- Whether a text is an address of eight pieces. -/
def isPiecesAddress : List Char → Bool
  | ':' :: ':' :: rest => completesPieces (rest.length + 1) 1 true rest
  | ':' :: _ => false
  | chars => completesPieces (chars.length + 1) 0 false chars

end SyntaxExplorer.Uri
