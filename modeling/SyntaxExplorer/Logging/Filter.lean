import SyntaxExplorer.Logging.Trace
/-!
Filters of the log.  A filter lists directives: levels, each for all targets or for those that start
with a name.  The most specific directive that fits an event decides.
-/

namespace SyntaxExplorer

/-- A directive without a span: the greatest level that it lets pass, from zero for none to five for
traces. -/
structure Directive where
  target : Option String := none
  fields : List String := []
  level : Nat
  deriving BEq, DecidableEq, Repr, Inhabited

namespace Directive

/-- The level of traces. -/
def traceLevel : Nat := 5

/-- The level that a text names, by its name or its number. -/
def level? (text : String) : Option Nat :=
  let digits := match text.toList with
    | '+' :: rest => rest
    | chars => chars
  if !digits.isEmpty && digits.all Char.isDigit then
    let value := digits.foldl (fun value c => value * 10 + (c.toNat - '0'.toNat)) 0
    if value ≤ traceLevel then some value else none
  else match text.toLower with
    | "off" => some 0
    | "error" => some 1
    | "warn" => some 2
    | "info" => some 3
    | "debug" => some 4
    | "trace" => some 5
    | _ => none

/-- The level behind an equals sign; nothing lets all pass. -/
def levelOrAll? (text : String) : Option Nat :=
  if text.isEmpty then some traceLevel else level? text

/-- A directive of one word: a level, or a target of which all passes. -/
def ofWord (word : String) : Directive :=
  match levelOrAll? word with
  | some level => { level }
  | none => { target := some word, level := traceLevel }

/-- What a directive says, and whether it holds within spans only. -/
structure Reading where
  directive : Directive
  inSpan : Bool := false

/-- The fields between braces, unless one is empty; a field with a value holds within spans only. -/
def fields? (text : String) : Option (List String × Bool) :=
  let fields := text.splitOn ","
  if fields.contains "" then none
  else some (fields.map fun field => (field.splitOn "=").headD "",
    fields.any fun field => field.contains '=')

/-- The rest of a directive behind its span. -/
def afterSpan (reading : Reading) : List Char → Option Reading
  | [] => some reading
  | '=' :: level => (levelOrAll? (String.ofList level)).map fun level =>
    { reading with directive := { reading.directive with level } }
  | _ => none

/-- A span in brackets, with what follows it. -/
def span? (target : Option String) (chars : List Char) : Option Reading :=
  let name := chars.takeWhile fun c => c != ']' && c != '\x7b'
  match chars.dropWhile fun c => c != ']' && c != '\x7b' with
  | ']' :: rest => afterSpan ⟨{ target, level := traceLevel }, true⟩ rest
  | '\x7b' :: rest =>
    match rest.dropWhile (· != '\x7d') with
    | '\x7d' :: ']' :: after => do
      let (fields, hasValue) ← fields? (String.ofList (rest.takeWhile (· != '\x7d')))
      afterSpan ⟨{ target, fields, level := traceLevel }, !name.isEmpty || hasValue⟩ after
    | _ => none
  | _ => none

/-- Reads a directive. -/
def read? (text : String) : Option Reading :=
  match text.toList with
  | [] => none
  | '[' :: rest => span? none rest
  | c :: rest =>
    if c.isAlphanum || 0x80 ≤ c.toNat || c == '-' || c == ':' || c == '_' then
      let word := (c :: rest).takeWhile fun c => c != '=' && c != '['
      match (c :: rest).dropWhile fun c => c != '=' && c != '[' with
      | '[' :: rest => span? (some (String.ofList word)) rest
      | '=' :: level => (levelOrAll? (String.ofList level)).map fun level =>
        ⟨{ target := some (String.ofList word), level }, false⟩
      | _ => some ⟨ofWord (String.ofList word), false⟩
    else none

/-- Whether a directive fits an event of a target with some fields. -/
def fits (target : String) (fields : List String) (directive : Directive) : Bool :=
  (match directive.target with
    | some start => target.startsWith start
    | none => true) &&
  directive.fields.all fields.contains

/-- How specific a directive is: by the length of its target, then by the number of its fields. -/
def specificity (directive : Directive) : Nat × Nat :=
  (match directive.target with
    | some target => target.utf8ByteSize + 1
    | none => 0,
   directive.fields.length)

/-- Whether a directive is at least as specific as another. -/
def atLeastAs (left right : Directive) : Bool :=
  let (a, b) := left.specificity
  let (c, d) := right.specificity
  c < a || (c == a && d ≤ b)

end Directive

structure LogFilter where
  directives : List Directive
  deriving BEq, DecidableEq, Repr, Inhabited

namespace LogFilter

/-- Lets information pass, and all that parsers tell. -/
def standard : String := "info,treescope::parse=trace"

/-- Reads a filter.  Directives that cannot be read do not count; of directives for the same events,
the last counts. -/
def ofText (text : String) : LogFilter :=
  ⟨((text.splitOn ",").filterMap fun part =>
    (Directive.read? part).bind fun reading =>
      if reading.inSpan then none else some reading.directive).reverse⟩

/-- Whether a filter lets an event of a level pass. -/
def passes (filter : LogFilter) (target : String) (fields : List String) (level : Nat) : Bool :=
  match (filter.directives.filter (Directive.fits target fields)).mergeSort Directive.atLeastAs with
  | directive :: _ => level ≤ directive.level
  | [] => false

/-- The lines of the log for trace lines of a document. -/
def log (filter : LogFilter) (document : String) (lines : List TraceLine) : List String :=
  if filter.passes TraceLine.target TraceLine.fields Directive.traceLevel then
    (lines.flatMap fun line => (line.logged document).splitOn "\n")
  else []

end LogFilter

end SyntaxExplorer
