import SyntaxExplorer.Text.Bytes
import SyntaxExplorer.Text.CharacterClass
import SyntaxExplorer.Uri.Punycode
/-!
The hosts of addresses.  Where a scheme knows hosts, they are names, which are decoded first, or
numbers; elsewhere they are any text without the characters that separate the parts of an address.
-/

namespace SyntaxExplorer.Uri

/-- The bytes of a text in which a percent sign and two digits stand for a byte. -/
def percentDecode : List Char → List UInt8
  | [] => []
  | '%' :: high :: low :: rest =>
    match digitValue? 16 high, digitValue? 16 low with
    | some first, some second => (first * 16 + second).toUInt8 :: percentDecode rest
    | _, _ => '%'.toNat.toUInt8 :: percentDecode (high :: low :: rest)
  | c :: rest => (String.singleton c).toUTF8.data.toList ++ percentDecode rest

/-- What is left out of names: characters that are not seen. -/
def unseen : CharacterClass := ⟨[
  (0xAD, 0xAD), (0x34F, 0x34F), (0x180B, 0x180F), (0x200B, 0x200B), (0x2060, 0x2060),
  (0x2064, 0x2064), (0xFE00, 0xFE0F), (0xFEFF, 0xFEFF), (0xE0100, 0xE01EF)]⟩

/-- What stands for a character of a name.  Capitals are small, wide forms are narrow, and spaces of
all widths are alike. -/
def foldCharacter (c : Char) : List Char :=
  if unseen.contains c then []
  else if c == '\u3002' || c == '\uFF61' then ['.']
  else if 0xFF01 ≤ c.toNat && c.toNat ≤ 0xFF5E then [(Char.ofNat (c.toNat - 0xFEE0)).toLower]
  else if CharacterClass.whiteSpace.contains c then [' ']
  else [c.toLower]

/-- Whether no name may hold a character. -/
def isDenied (c : Char) : Bool :=
  c ≤ ' ' || (0x7F ≤ c.toNat && c.toNat < 0xA0) || "%#/:<>?@[\\]^|".contains c

/-- Whether a code point may stand in a name as it is. -/
def isStable (codePoint : Nat) : Bool :=
  codePoint.isValidChar && (let c := Char.ofNat codePoint; foldCharacter c == [c] && !isDenied c)

/-- Whether a label of a name is one.  Behind `xn--` it has to be the code of other characters. -/
def isLabel : List Char → Bool
  | 'x' :: 'n' :: '-' :: '-' :: code => match Punycode.decode? code with
    | some codePoints => codePoints.any (128 ≤ ·) && codePoints.all isStable
    | none => false
  | _ => true

/-- Whether a text within square brackets, or one that begins with a bracket, is a host. -/
def isBracketedHost (host : List Char) : Bool :=
  host.getLast? == some ']' && isPiecesAddress (host.drop 1).dropLast

/-- Whether a text is a host where hosts are names or numbers. -/
def isHost (host : List Char) : Bool :=
  if host.head? == some '[' then isBracketedHost host
  else match Text.ofBytes? (percentDecode host) with
    | none => false
    | some decoded =>
      let name := decoded.toList.flatMap foldCharacter
      !name.isEmpty && !name.any isDenied && (name.splitOn '.').all isLabel &&
        (!endsInNumber name || isDottedAddress name)

/-- Whether a text is a host where hosts are any texts. -/
def isOpaqueHost (host : List Char) : Bool :=
  if host.head? == some '[' then isBracketedHost host
  else !host.any fun c => "\x00\t\n\r #/:<>?@[\\]^|".contains c

end SyntaxExplorer.Uri
