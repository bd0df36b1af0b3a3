import SyntaxExplorer.Uri.NumericHost
/-!
Punycode: labels of ASCII that stand for labels of any characters.  Behind the last hyphen stand
numbers of variable length, which say where in the characters before it others are put in.
-/

namespace SyntaxExplorer.Uri.Punycode

/-- The state of decoding: the code point and the place that come next, and the number at hand with
the weight of its next digit. -/
structure Decoder where
  codePoint : Nat := 128
  place : Nat := 0
  bias : Nat := 72
  number : Nat := 0
  weight : Nat := 1
  step : Nat := 1
  isFirst : Bool := true
  output : List Nat

/-- The bias that suits numbers like one that was read. -/
def adapt (number count : Nat) (isFirst : Bool) : Nat :=
  let number := if isFirst then number / 700 else number / 2
  scale 0 (number + number / count) 16
where
  scale (bias number : Nat) : Nat → Nat
    | 0 => bias
    | fuel + 1 =>
      if 455 < number then scale (bias + 36) (number / 35) fuel
      else bias + 36 * number / (number + 38)

/-- Puts a character in once its number is complete. -/
def Decoder.insert (decoder : Decoder) : Decoder :=
  let count := decoder.output.length + 1
  let place := decoder.place + decoder.number
  { codePoint := decoder.codePoint + place / count
    place := place % count + 1
    bias := adapt decoder.number count decoder.isFirst
    isFirst := false
    output := decoder.output.insertIdx (place % count) (decoder.codePoint + place / count) }

/-- Reads one digit.  The letters are the digits up to twenty-five. -/
def Decoder.read (decoder : Decoder) (c : Char) : Option Decoder := do
  let value ← digitValue? 36 c
  let digit := if value < 10 then value + 26 else value - 10
  let threshold := max 1 (min 26 (36 * decoder.step - decoder.bias))
  let decoder := { decoder with number := decoder.number + digit * decoder.weight }
  if digit < threshold then return decoder.insert
  else return { decoder with
    weight := decoder.weight * (36 - threshold), step := decoder.step + 1 }

/-- The code points that a label stands for. -/
def decode? (label : List Char) : Option (List Nat) := do
  let digits := (label.reverse.takeWhile (· != '-')).reverse
  let plain := (label.take (label.length - digits.length)).dropLast
  let decoder ← digits.foldlM Decoder.read { output := plain.map Char.toNat }
  if decoder.step = 1 then some decoder.output else none

end SyntaxExplorer.Uri.Punycode
