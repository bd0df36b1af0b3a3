import SyntaxExplorer.Parsing.Subtree
import SyntaxExplorer.Parsing.Reader
/-!
Reading the next token.  A state tells which tokens are valid: the scanner is asked for external ones
first, then the lexical table; where nothing valid stands, any token of the error state is taken, and
text that starts no token at all is skipped.
-/

namespace SyntaxExplorer.Parsing

open Lexical

/-- A language with its scanner. -/
structure Parseable where
  language : Language
  scanner : Scanner

/-- Runs the lexical table from a state: the longest token it accepts. -/
def readByTable (table : LexTable) (source : ByteArray) (start : Nat) (reader : Reader) :
    Reader × Option Accepted := Id.run do
  let mut reader := reader
  let mut state := start
  let mut found : Option Accepted := none
  for _ in [0:source.size + 3] do
    let current := table.states[state]?.getD {}
    if current.accepted.isSome then
      found := current.accepted
      reader := reader.markEnd
    if reader.atEnd source then
      match current.atEnd with
      | some target => state := target
      | none => break
    else
      let character := reader.lookahead source
      match (if character = 0 then none else current.move? character) with
      | some move =>
        reader := reader.advance source move.separator
        state := move.target
      | none => break
  return (reader, found)

/-- The symbol that a table accepts. -/
structure ReadToken where
  symbol : Nat
  isExternal : Bool

/-- A token as read: its subtree, and whether any character was passed. -/
structure LexResult where
  tree : Subtree
  advanced : Bool

/-- Reads the token at a position.  `mayBeEmpty` tells whether an external token without text would
move the parser on. -/
def readToken (parseable : Parseable) (source : ByteArray) (position : Extent)
    (state : Nat) (hasAdvanced : Bool) : LexResult := Id.run do
  let language := parseable.language
  let symbolOf : Accepted → Nat
    | .endOfInput => 0
    | .token symbol => symbol
  let mut mode := language.mode state
  let mut errorMode := state == 0
  let mut reader := Reader.startAt position
  let mut lookedAt := 0
  let mut found : Option ReadToken := none
  let mut skipping : Option (Extent × Extent) := none
  for _ in [0:2 * source.size + 8] do
    let before := reader
    -- External tokens.
    unless mode.externals.isEmpty do
      let externals := mode.externals
      let (scanned, external) :=
        parseable.scanner source externals.contains (reader.start source)
      let finished := scanned.finish
      lookedAt := max lookedAt finished.lookedAt
      reader := finished
      if let some index := external then
        let symbol := language.externals[index]?.getD 0
        let isEmpty := (finished.tokenEnd.getD .zero).bytes ≤ before.position.bytes
        let isExtra := language.nextState state symbol == state
        unless isEmpty && (errorMode || !hasAdvanced || isExtra) do
          found := some ⟨symbol, true⟩
          break
      reader := { before with advanced := reader.advanced }
    -- Ordinary tokens.
    let (scanned, accepted) :=
      readByTable language.lexTable source mode.start (reader.start source)
    reader := scanned.finish
    lookedAt := max lookedAt reader.lookedAt
    if let some token := accepted then
      found := some ⟨symbolOf token, false⟩
      break
    if !errorMode then
      errorMode := true
      mode := language.mode 0
      reader := { Reader.startAt position with advanced := reader.advanced }
    else
      let (errorStart, errorEnd) := skipping.getD (reader.tokenStart, reader.tokenStart)
      if reader.position.bytes == errorEnd.bytes then
        if reader.atEnd source then
          skipping := some (errorStart, errorEnd)
          break
        reader := reader.advance source false
      skipping := some (errorStart, reader.position)
  match skipping with
  | some (errorStart, errorEnd) =>
    return ⟨.errorLeaf language (errorStart - position) (errorEnd - errorStart)
      (lookedAt - errorEnd.bytes) state, reader.advanced⟩
  | none =>
    let token := found.getD ⟨errorSymbol, false⟩
    let tokenEnd := reader.tokenEnd.getD reader.position
    let tokenStart :=
      if tokenEnd.bytes < reader.tokenStart.bytes then tokenEnd else reader.tokenStart
    let mut symbol := token.symbol
    let mut isKeyword := false
    if !token.isExternal && symbol ≠ 0 && some symbol == language.word then
      let (scanned, accepted) := readByTable language.lexTable source language.keywordStart
        ((Reader.startAt tokenStart).start source)
      if let some keyword := accepted then
        isKeyword := true
        let keywordSymbol := symbolOf keyword
        let sameEnd := (scanned.finish.tokenEnd.map (·.bytes)) == some tokenEnd.bytes
        if sameEnd && (!(language.actions state keywordSymbol).isEmpty ||
            language.isReserved state keywordSymbol) then
          symbol := keywordSymbol
    return ⟨.leaf language symbol (tokenStart - position) (tokenEnd - tokenStart)
      (lookedAt - tokenEnd.bytes) state token.isExternal isKeyword, reader.advanced⟩

end SyntaxExplorer.Parsing
