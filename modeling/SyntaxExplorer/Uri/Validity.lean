import SyntaxExplorer.Uri.Host
/-!
Which texts are addresses of documents.  An address starts with a scheme; what follows can only be wrong
where it names a host.
-/

namespace SyntaxExplorer.Uri

/-- The schemes behind which a host must follow. -/
def hostSchemes : List String := ["http", "https", "ws", "wss", "ftp"]

/-- The scheme of an address, in small letters, and what follows its colon. -/
def scheme? (address : List Char) : Option (String × List Char) :=
  let isSchemeCharacter (c : Char) : Bool := c.isAlphanum || c == '+' || c == '-' || c == '.'
  let scheme := address.takeWhile isSchemeCharacter
  match address.head?, address.drop scheme.length with
  | some first, ':' :: rest =>
    if first.isAlpha then some (String.ofList (scheme.map Char.toLower), rest) else none
  | _, _ => none

/-- Whether a character ends an authority. -/
def endsAuthority (hasHosts : Bool) (c : Char) : Bool :=
  c == '/' || c == '?' || c == '#' || (hasHosts && c == '\\')

/-- What stands before the last at sign of an authority, if it has one, and what follows. -/
def splitUser (hasHosts : Bool) (chars : List Char) : Option (List Char) × List Char :=
  let authority := chars.takeWhile fun c => !endsAuthority hasHosts c
  let last := (authority.reverse.takeWhile (· != '@')).reverse
  let user := authority.take (authority.length - last.length)
  if user.isEmpty then (none, chars) else (some user.dropLast, chars.drop user.length)

/-- The host that some characters start with, and what follows.  Colons in brackets do not end it. -/
def spanHost (hasHosts isBracketed : Bool) : List Char → List Char × List Char
  | [] => ([], [])
  | c :: rest =>
    if endsAuthority hasHosts c || (c == ':' && !isBracketed) then ([], c :: rest)
    else
      let isBracketed := if c == '[' then true else if c == ']' then false else isBracketed
      let (host, rest) := spanHost hasHosts isBracketed rest
      (c :: host, rest)

/-- Whether some characters start with a port, which may be empty. -/
def startsWithPort (chars : List Char) : Bool :=
  let digits := chars.takeWhile Char.isDigit
  let isInRange := match numeral? 10 digits with
    | some port => port < 65536
    | none => false
  isInRange && match chars.drop digits.length with
    | [] => true
    | c :: _ => endsAuthority true c

/-- Whether what follows the two slashes of an address is right. -/
def isAuthority (hasHosts : Bool) (chars : List Char) : Bool :=
  let (user, chars) := splitUser hasHosts chars
  let (host, rest) := spanHost hasHosts false chars
  let isUserRight := match user with
    | none => true
    | some [] => match chars with
      | [] => true
      | c :: _ => !endsAuthority hasHosts c
    | some user => !host.isEmpty || user == [':']
  let isPortRight := match rest with
    | ':' :: port => !host.isEmpty && startsWithPort port
    | _ => true
  let isHostRight := if hasHosts then isHost host else isOpaqueHost host
  isUserRight && isPortRight && isHostRight

/-- Whether a text is the name of a drive: a letter, and a colon or a bar. -/
def isDrive : List Char → Bool
  | [letter, mark] => letter.isAlpha && (mark == ':' || mark == '|')
  | _ => false

/-- Whether what follows the scheme of files is right. -/
def isFileAddress : List Char → Bool
  | first :: second :: rest =>
    let isSlash (c : Char) : Bool := c == '/' || c == '\\'
    let host := rest.takeWhile fun c => !endsAuthority true c
    !isSlash first || !isSlash second || host.isEmpty || isDrive host || isHost host
  | _ => true

/-- Whether a text is an address.  Blanks around it do not count, and neither do tabs and the ends of
lines anywhere. -/
def isValid (text : String) : Bool :=
  let isBlank (c : Char) : Bool := c ≤ ' '
  let trimmed := ((text.toList.dropWhile isBlank).reverse.dropWhile isBlank).reverse
  match scheme? (trimmed.filter fun c => c != '\t' && c != '\n' && c != '\r') with
  | none => false
  | some (scheme, rest) =>
    if scheme == "file" then isFileAddress rest
    else if hostSchemes.contains scheme then
      isAuthority true (rest.dropWhile fun c => c == '/' || c == '\\')
    else match rest with
      | '/' :: '/' :: rest => isAuthority false rest
      | _ => true

end SyntaxExplorer.Uri
