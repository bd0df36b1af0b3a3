import SyntaxExplorer.Store.SessionStore

/-! The names of files tell digests apart: sixteen hexadecimal digits can be read as the number that they
were written for, so two documents have one file only if they have one digest.
-/

namespace SyntaxExplorer

namespace Digest

/-- The value of a hexadecimal digit. -/
def digitValue (digit : Char) : Nat :=
  if digit.isDigit then digit.toNat - '0'.toNat else digit.toNat - 'a'.toNat + 10

/-- The number that some hexadecimal digits stand for. -/
def valueOf (digits : List Char) : Nat :=
  digits.foldl (fun value digit => 16 * value + digitValue digit) 0

/-- A digit has the value that it was written for. -/
theorem digitValue_digitChar {value : Nat} (small : value < 16)
    : digitValue value.digitChar = value := by
  have each : ∀ value < 16, digitValue value.digitChar = value := by decide
  exact each value small

/-- A digit at the end counts behind all others. -/
theorem valueOf_concat (digits : List Char) (last : Char)
    : valueOf (digits ++ [last]) = 16 * valueOf digits + digitValue last := by
  simp [valueOf]

/-- The digits of a number stand for it, by induction over the digits. -/
theorem valueOf_toDigits (number : Nat) : valueOf (Nat.toDigits 16 number) = number := by
  induction number using Nat.strongRecOn with
  | ind number ih =>
      by_cases small : number < 16
      · have last := digitValue_digitChar small
        simp [Nat.toDigits_of_lt_base small, valueOf, last]
      · have fewer : number / 16 < number := by omega
        have last := digitValue_digitChar (Nat.mod_lt number (by decide : 0 < 16))
        rw [Nat.toDigits_of_base_le (by decide) (by omega), valueOf_concat, ih _ fewer, last]
        omega

/-- Zeros before some digits do not count, by induction over the zeros. -/
theorem valueOf_replicate_append (count : Nat) (digits : List Char)
    : valueOf (List.replicate count '0' ++ digits) = valueOf digits := by
  induction count with
  | zero => rfl
  | succ count ih => exact ih

/-- The digits of the digest of a text stand for the digest of its bytes. -/
theorem valueOf_ofText (text : String)
    : valueOf (ofText text).toList = (ofBytes text.toUTF8.data).toNat := by
  rw [ofText, String.toList_ofList, valueOf_replicate_append, valueOf_toDigits]

end Digest

namespace SessionStore

/-- The digest of a document that its file is named by. -/
def digest (uri : String) : UInt64 := Digest.ofBytes uri.toUTF8.data

/-- Documents have one file exactly if they have one digest. -/
theorem fileOf_eq_iff {uri other : String} : fileOf uri = fileOf other ↔ digest uri = digest other := by
  constructor
  · intro same
    have digits : Digest.ofText uri = Digest.ofText other := (String.append_left_inj _).mp same
    have numbers := congrArg (fun text => Digest.valueOf text.toList) digits
    simp only [Digest.valueOf_ofText] at numbers
    exact UInt64.toNat_inj.mp numbers
  · intro same
    rw [digest, digest] at same
    simp only [fileOf, Digest.ofText, same]

end SessionStore

end SyntaxExplorer
