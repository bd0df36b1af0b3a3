import SyntaxExplorer.Text.Extent
/-!
Reading a text character by character.  A reader keeps where the token under construction starts and
ends; the end of the text reads as the character zero.
-/

namespace SyntaxExplorer.Parsing

/-- The character of UTF-8 bytes at a position, with its length; zero at the end. -/
def characterAt (source : ByteArray) (position : Nat) : Nat × Nat :=
  match source[position]? with
  | none => (0, 1)
  | some first =>
    let byte (offset : Nat) : Nat :=
      ((source[position + offset]?).map (·.toNat % 64)).getD 0
    let lead := first.toNat
    if lead < 0x80 then (lead, 1)
    else if lead < 0xE0 then (lead % 32 * 64 + byte 1, 2)
    else if lead < 0xF0 then (lead % 16 * 4096 + byte 1 * 64 + byte 2, 3)
    else (lead % 8 * 262144 + byte 1 * 4096 + byte 2 * 64 + byte 3, 4)

structure Reader where
  position : Extent := .zero
  tokenStart : Extent := .zero
  /-- The end of the token, once marked. -/
  tokenEnd : Option Extent := none
  /-- Whether any character has been passed. -/
  advanced : Bool := false
  deriving Repr, Inhabited

namespace Reader

/-- A reader at a position. -/
def startAt (position : Extent) : Reader := { position, tokenStart := position }

def atEnd (source : ByteArray) (reader : Reader) : Bool := source.size ≤ reader.position.bytes

def lookahead (source : ByteArray) (reader : Reader) : Nat :=
  (characterAt source reader.position.bytes).1

/-- Passes a character; a skipped one is not part of the token. -/
def advance (source : ByteArray) (reader : Reader) (skip : Bool) : Reader :=
  if reader.atEnd source then reader
  else
    let (character, length) := characterAt source reader.position.bytes
    let point := reader.position.point
    let position : Extent :=
      { bytes := reader.position.bytes + length
        point := if character = 10 then ⟨point.row + 1, 0⟩ else ⟨point.row, point.column + length⟩ }
    { reader with
      position, advanced := true
      tokenStart := if skip then position else reader.tokenStart }

def markEnd (reader : Reader) : Reader := { reader with tokenEnd := some reader.position }

/-- Starts a token here.  A byte order mark at the start of the text is skipped. -/
def start (source : ByteArray) (reader : Reader) : Reader :=
  let fresh := { reader with tokenStart := reader.position, tokenEnd := none }
  if reader.position.bytes = 0 ∧ fresh.lookahead source = 0xFEFF then fresh.advance source true
  else fresh

/-- Ends a token: at the mark, or here. -/
def finish (reader : Reader) : Reader :=
  if reader.tokenEnd.isSome then reader else reader.markEnd

/-- How far a reader has looked: one byte beyond its position. -/
def lookedAt (reader : Reader) : Nat := reader.position.bytes + 1

end Reader

/-- A scanner of external tokens: from the tokens that are valid, the token that stands here, with the
reader after it. -/
abbrev Scanner := ByteArray → (Nat → Bool) → Reader → Reader × Option Nat

end SyntaxExplorer.Parsing
