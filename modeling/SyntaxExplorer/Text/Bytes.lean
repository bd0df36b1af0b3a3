/-!
Texts by bytes of UTF-8.  A text is cut only between characters; an offset inside a character, or
beyond the end, cuts nothing.
-/

namespace SyntaxExplorer.Text

/-- The number of bytes of some characters. -/
def byteLength : List Char → Nat
  | [] => 0
  | c :: rest => c.utf8Size + byteLength rest

/-- The characters before and after a byte offset, if it lies between two characters or at an end. -/
def splitAt? : List Char → Nat → Option (List Char × List Char)
  | chars, 0 => some ([], chars)
  | [], _ + 1 => none
  | c :: rest, offset + 1 =>
    if c.utf8Size ≤ offset + 1 then
      (splitAt? rest (offset + 1 - c.utf8Size)).map fun (before, after) => (c :: before, after)
    else none

/-- Whether a byte offset lies between two characters or at an end. -/
def isBoundary (chars : List Char) (offset : Nat) : Bool := (splitAt? chars offset).isSome

/-- The part of a text between two byte offsets, if both are boundaries in order. -/
def slice? (text : String) (start stop : Nat) : Option String := do
  if stop < start then none
  let (_, after) ← splitAt? text.toList start
  let (within, _) ← splitAt? after (stop - start)
  return String.ofList within

/-- The part of a text from a byte offset on. -/
def dropBytes? (text : String) (start : Nat) : Option (List Char) :=
  (splitAt? text.toList start).map (·.2)

/-- The text that some bytes of UTF-8 are, if they are one. -/
def ofBytes? (bytes : List UInt8) : Option String := String.fromUTF8? ⟨bytes.toArray⟩

end SyntaxExplorer.Text
