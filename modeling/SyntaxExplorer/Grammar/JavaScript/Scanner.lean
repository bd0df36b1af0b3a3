import SyntaxExplorer.Parsing.Reader
/-!
The scanner of JavaScript: the tokens that depend on more than their own characters.  A semicolon may
be left out where a line ends and no operator goes on; template text runs up to a substitution; the
question mark of a condition is no optional access.
-/

namespace SyntaxExplorer.Grammar.JavaScript.Scanner

open Parsing

/-- The external tokens, in the order of the grammar. -/
inductive Token
  | automaticSemicolon
  | templateChars
  | ternaryMark
  | htmlComment
  | logicalOr
  | escapeSequence
  | regexPattern
  | jsxText
  deriving BEq, Repr

def Token.index : Token → Nat
  | .automaticSemicolon => 0
  | .templateChars => 1
  | .ternaryMark => 2
  | .htmlComment => 3
  | .logicalOr => 4
  | .escapeSequence => 5
  | .regexPattern => 6
  | .jsxText => 7

/-- The blanks of ASCII. -/
def isBlank (character : Nat) : Bool := character == 32 || (9 ≤ character && character ≤ 13)

def isDigit (character : Nat) : Bool := 48 ≤ character && character ≤ 57

def isLetter (character : Nat) : Bool :=
  (65 ≤ character && character ≤ 90) || (97 ≤ character && character ≤ 122)

def isLineEnd (character : Nat) : Bool :=
  character == 10 || character == 0x2028 || character == 0x2029

variable (source : ByteArray)

/-- The characters left, which bounds every loop of the scanner. -/
def remaining (reader : Reader) : Nat := source.size - reader.position.bytes + 1

def skipWhile (holds : Nat → Bool) (skip : Bool) : Nat → Reader → Reader
  | 0, reader => reader
  | fuel + 1, reader =>
    if holds (reader.lookahead source) then
      skipWhile holds skip fuel (reader.advance source skip)
    else reader

def skipBlanks (reader : Reader) : Reader :=
  skipWhile source isBlank true (remaining source reader) reader

/-- Template text: up to the closing quote, a substitution or an escape.  The mark stands before the
character at hand. -/
def templateChars : Nat → Bool → Reader → Reader × Bool
  | 0, _, reader => (reader, false)
  | fuel + 1, hasContent, reader =>
    let marked := reader.markEnd
    match marked.lookahead source with
    | 0x60 => (marked, hasContent)
    | 0 => (marked, false)
    | 0x24 =>
      let next := marked.advance source false
      if next.lookahead source = 0x7B then (next, hasContent)
      else templateChars fuel true next
    | 0x5C => (marked, hasContent)
    | _ => templateChars fuel true (marked.advance source false)

/-- What the blanks and comments at a place say about a semicolon there. -/
inductive BlankResult
  | reject
  | noLineEnd
  | accept
  deriving BEq

/-- Skips a block comment's inside; tells whether it ended, and whether it held a line end. -/
def skipBlockComment : Nat → Bool → Reader → Reader × Bool × Bool
  | 0, sawLineEnd, reader => (reader, false, sawLineEnd)
  | fuel + 1, sawLineEnd, reader =>
    let character := reader.lookahead source
    if character = 0 then (reader, false, sawLineEnd)
    else if character = 0x2A then
      let next := reader.advance source true
      if next.lookahead source = 0x2F then (next.advance source true, true, sawLineEnd)
      else skipBlockComment fuel sawLineEnd next
    else skipBlockComment fuel (sawLineEnd || isLineEnd character) (reader.advance source true)

/-- Skips blanks and comments.  Unless `consume` is set it stops after a block comment that no other
comment follows. -/
def skipBlanksAndComments (consume : Bool) :
    Nat → Bool → Bool → Reader → Reader × Bool × BlankResult
  | 0, sawComment, _, reader => (reader, sawComment, .accept)
  | fuel + 1, sawComment, sawLineEnd, reader =>
    let reader := skipBlanks source reader
    if reader.lookahead source ≠ 0x2F then (reader, sawComment, .accept)
    else
      let next := reader.advance source true
      match next.lookahead source with
      | 0x2F =>
        let after := skipWhile source (fun c => c != 0 && !isLineEnd c) true
          (remaining source next) (next.advance source true)
        skipBlanksAndComments consume fuel true sawLineEnd after
      | 0x2A =>
        let (after, ended, sawLineEnd) :=
          skipBlockComment source (remaining source next) sawLineEnd (next.advance source true)
        let sawComment := sawComment || ended
        if ended && after.lookahead source != 0x2F && !consume then
          (after, sawComment, if sawLineEnd then .accept else .noLineEnd)
        else skipBlanksAndComments consume fuel sawComment sawLineEnd after
      | _ => (next, sawComment, .reject)

/-- Whether the text goes on with some characters. -/
def matchesNext : List Nat → Reader → Reader × Bool
  | [], reader => (reader, true)
  | character :: rest, reader =>
    if reader.lookahead source = character then matchesNext rest (reader.advance source true)
    else (reader, false)

/-- Whether the line after a line end cannot go on the statement before it. -/
def startsStatement (reader : Reader) : Reader × Bool :=
  let character := reader.lookahead source
  let next := reader.advance source true
  let after := next.lookahead source
  if "\x60,:;*%><=[(?^|&/".toList.any fun c => c.toNat = character then (reader, false)
  else match Char.ofNat character with
    | '.' => (next, isDigit after)
    | '+' => (next, after = '+'.toNat)
    | '-' => (next, after = '-'.toNat)
    | '!' => (next, after ≠ '='.toNat)
    | 'i' =>
      -- Neither `in` nor `instanceof` starts a statement.
      if after ≠ 'n'.toNat then (next, true)
      else
        let beyond := next.advance source true
        if !isLetter (beyond.lookahead source) then (beyond, false)
        else
          let (ended, found) := matchesNext source ("stanceof".toList.map (·.toNat)) beyond
          (ended, !found || isLetter (ended.lookahead source))
    | _ => (reader, true)

/-- A semicolon that was left out: before a closing brace, at the end of the text, or at a line end
that the next line does not go on from.  Also tells whether a comment was passed. -/
def automaticSemicolon (afterComment : Bool) : Nat → Bool → Reader → Reader × Bool × Bool
  | 0, sawComment, reader => (reader, sawComment, false)
  | fuel + 1, sawComment, reader =>
    let character := reader.lookahead source
    if character = 0 then (reader, sawComment, true)
    else
      let (reader, sawComment, result) :=
        if character = 0x2F then
          let (after, sawComment, result) :=
            skipBlanksAndComments source false (remaining source reader) sawComment false reader
          (after, sawComment, some result)
        else (reader, sawComment, none)
      let character := reader.lookahead source
      if result == some .reject then (reader, sawComment, false)
      else if result == some .accept && afterComment && character != ','.toNat &&
          character != '='.toNat then (reader, sawComment, true)
      else if character = 0x7D || reader.position.bytes = 0 then (reader, sawComment, true)
      else if isLineEnd character then
        let next := reader.advance source true
        let (after, sawComment, result) :=
          skipBlanksAndComments source true (remaining source next) sawComment false next
        if result == .reject then (after, sawComment, false)
        else
          let (ended, starts) := startsStatement source after
          (ended, sawComment, starts)
      else if !isBlank character then (reader, sawComment, false)
      else automaticSemicolon afterComment fuel sawComment (reader.advance source true)

/-- The question mark of a condition: followed neither by another nor by an access. -/
def ternaryMark (reader : Reader) : Reader × Bool :=
  let reader := skipBlanks source reader
  if reader.lookahead source ≠ '?'.toNat then (reader, false)
  else
    let next := reader.advance source false
    if next.lookahead source = '?'.toNat then (next, false)
    else
      let marked := next.markEnd
      if marked.lookahead source = '.'.toNat then
        let after := marked.advance source false
        (after, isDigit (after.lookahead source))
      else (marked, true)

/-- A comment between the marks of HTML, up to the end of the line. -/
def htmlComment (reader : Reader) : Reader × Bool :=
  let reader := skipWhile source (fun c => isBlank c || isLineEnd c) true
    (remaining source reader) reader
  let rec pass : List Nat → Reader → Reader × Bool
    | [], reader => (reader, true)
    | character :: rest, reader =>
      if reader.lookahead source = character then pass rest (reader.advance source false)
      else (reader, false)
  let mark := match Char.ofNat (reader.lookahead source) with
    | '<' => some "<!--"
    | '-' => some "-->"
    | _ => none
  match mark with
  | none => (reader, false)
  | some mark =>
    let (after, found) := pass (mark.toList.map (·.toNat)) reader
    if found then
      ((skipWhile source (fun c => c != 0 && !isLineEnd c) false (remaining source after)
        after).markEnd, true)
    else (after, false)

/-- The text between markup elements.  Line ends with the blanks after them are no text of their
own. -/
def jsxText : Nat → Bool → Bool → Reader → Reader × Bool
  | 0, sawText, _, reader => (reader, sawText)
  | fuel + 1, sawText, atLineEnd, reader =>
    let character := reader.lookahead source
    if character = 0 || "<>\x7b\x7d&".toList.any fun c => c.toNat = character then
      (reader, sawText)
    else if character = 10 then
      jsxText fuel sawText true (reader.advance source false)
    else
      let atLineEnd := atLineEnd && isBlank character
      jsxText fuel (sawText || !atLineEnd) atLineEnd (reader.advance source false)

/-- Recognises the external token that stands here, if one of the valid ones does. -/
def scan : Scanner := fun source valid reader =>
  let isValid (token : Token) : Bool := valid token.index
  let bound := remaining source reader
  if isValid .templateChars then
    if isValid .automaticSemicolon then (reader, none)
    else
      let (after, found) := templateChars source bound false reader
      (after, if found then some Token.templateChars.index else none)
  else
    let (reader, foundText) :=
      if isValid .jsxText then jsxText source bound false false reader else (reader, false)
    if foundText then (reader, some Token.jsxText.index)
    else if isValid .automaticSemicolon then
      let (after, sawComment, found) :=
        automaticSemicolon source (!isValid .logicalOr) bound false reader.markEnd
      if found then (after, some Token.automaticSemicolon.index)
      else if !sawComment && isValid .ternaryMark && after.lookahead source == '?'.toNat then
        let (after, found) := ternaryMark source after
        (after, if found then some Token.ternaryMark.index else none)
      else (after, none)
    else if isValid .ternaryMark then
      let (after, found) := ternaryMark source reader
      (after, if found then some Token.ternaryMark.index else none)
    else if isValid .htmlComment && !isValid .logicalOr && !isValid .escapeSequence &&
        !isValid .regexPattern then
      let (after, found) := htmlComment source reader
      (after, if found then some Token.htmlComment.index else none)
    else (reader, none)

end SyntaxExplorer.Grammar.JavaScript.Scanner
