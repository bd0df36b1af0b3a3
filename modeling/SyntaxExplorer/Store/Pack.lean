import SyntaxExplorer.Text.Bytes
import SyntaxExplorer.Wire.Format
/-!
Values as bytes of MessagePack.  Records are maps of their fields by name; read, they may also be lists
of their fields, and a field may be named by its place.
-/

namespace SyntaxExplorer.Wire

/-- A value as it is packed. -/
inductive Pack
  | null
  | boolean (value : Bool)
  /-- An integer, which may be written in a form with a sign. -/
  | integer (isSigned : Bool) (value : Int)
  | fraction
  | text (bytes : List UInt8)
  | bytes (bytes : List UInt8)
  | list (items : List Pack)
  | map (entries : List (Pack × Pack))
  | extension

instance : Inhabited Pack := ⟨.null⟩

/-- So many bytes of a number, the most significant first. -/
def bigEndian : Nat → Nat → List UInt8
  | 0, _ => []
  | count + 1, value => (value / 256 ^ count % 256).toUInt8 :: bigEndian count value

/-- A length behind its marker, in the smallest of the forms that have a marker. -/
def packLength (forms : List (Nat × Nat)) (length : Nat) : List UInt8 :=
  match forms.find? fun (_, count) => length < Nat.pow 256 count with
  | some (marker, count) => marker.toUInt8 :: bigEndian count length
  | none => []

def packNatural (value : Nat) : List UInt8 :=
  if value < 128 then [value.toUInt8]
  else packLength [(0xcc, 1), (0xcd, 2), (0xce, 4), (0xcf, 8)] value

def packInteger (value : Int) : List UInt8 :=
  if 0 ≤ value then packNatural value.toNat
  else if -32 ≤ value then [(value + 256).toNat.toUInt8]
  else
    let size := ([1, 2, 4].find? fun count => -(Nat.pow 256 count / 2 : Int) ≤ value).getD 8
    let marker := match size with
      | 1 => 0xd0
      | 2 => 0xd1
      | 4 => 0xd2
      | _ => 0xd3
    marker :: bigEndian size (value + Nat.pow 256 size).toNat

def packText (text : String) : List UInt8 :=
  let bytes := text.toUTF8.data.toList
  (if bytes.length < 32 then [(0xa0 + bytes.length).toUInt8]
    else packLength [(0xd9, 1), (0xda, 2), (0xdb, 4)] bytes.length) ++ bytes

def packListStart (length : Nat) : List UInt8 :=
  if length < 16 then [(0x90 + length).toUInt8] else packLength [(0xdc, 2), (0xdd, 4)] length

def packMapStart (length : Nat) : List UInt8 :=
  if length < 16 then [(0x80 + length).toUInt8] else packLength [(0xde, 2), (0xdf, 4)] length

/-- The number of fields of a record that are written. -/
def Fields.writtenCount : Fields → List Value → Nat
  | .cons _ .omissible _ rest, .absent :: values => rest.writtenCount values
  | .cons _ _ _ rest, _ :: values => rest.writtenCount values + 1
  | _, _ => 0

mutual

/-- The bytes of a value. -/
def Schema.pack : Schema → Value → List UInt8
  | .natural _, .natural value => packNatural value
  | .integer _, .integer value => packInteger value
  | .boolean, .boolean value => [if value then 0xc3 else 0xc2]
  | .text, .text value => packText value
  | .optional inner, .present value => inner.pack value
  | .list inner, .list values => packListStart values.length ++ values.flatMap inner.pack
  | .record fields, .record values => packMapStart (fields.writtenCount values) ++ fields.pack values
  | .choice _, .choice name => packText name
  | _, _ => [0xc0]

def Fields.pack : Fields → List Value → List UInt8
  | .cons _ .omissible _ rest, .absent :: values => rest.pack values
  | .cons name _ schema rest, value :: values =>
    packText name ++ schema.pack value ++ rest.pack values
  | _, _ => []

end

/-! Reading. -/

/-- A number of so many bytes, the most significant first, with what follows. -/
def takeNumber : Nat → Nat → List UInt8 → Option (Nat × List UInt8)
  | 0, value, bytes => some (value, bytes)
  | _ + 1, _, [] => none
  | count + 1, value, byte :: rest => takeNumber count (value * 256 + byte.toNat) rest

/-- So many bytes, with what follows. -/
def takeBytes : Nat → List UInt8 → Option (List UInt8 × List UInt8)
  | 0, bytes => some ([], bytes)
  | _ + 1, [] => none
  | count + 1, byte :: rest => (takeBytes count rest).map fun (taken, rest) => (byte :: taken, rest)

/-- A number of so many bytes with a sign. -/
def takeSigned (count : Nat) (bytes : List UInt8) : Option (Int × List UInt8) :=
  (takeNumber count 0 bytes).map fun (value, rest) =>
    (if value < Nat.pow 256 count / 2 then (value : Int) else (value : Int) - Nat.pow 256 count, rest)

/-- What a marker announces. -/
inductive PackStart
  | value (value : Pack)
  | natural (size : Nat)
  | integer (size : Nat)
  | fraction (size : Nat)
  | text (length : Nat)
  | textOfLength (size : Nat)
  | bytesOfLength (size : Nat)
  | list (length : Nat)
  | listOfLength (size : Nat)
  | map (length : Nat)
  | mapOfLength (size : Nat)
  | extension (length : Nat)
  | extensionOfLength (size : Nat)

/-- What a first byte announces, unless no value starts so. -/
def PackStart.ofByte (byte : Nat) : Option PackStart :=
  if byte < 0x80 then some (.value (.integer false byte))
  else if byte < 0x90 then some (.map (byte - 0x80))
  else if byte < 0xa0 then some (.list (byte - 0x90))
  else if byte < 0xc0 then some (.text (byte - 0xa0))
  else if 0xe0 ≤ byte then some (.value (.integer true (byte - 256)))
  else match byte with
    | 0xc0 => some (.value .null)
    | 0xc2 => some (.value (.boolean false))
    | 0xc3 => some (.value (.boolean true))
    | 0xc4 => some (.bytesOfLength 1)
    | 0xc5 => some (.bytesOfLength 2)
    | 0xc6 => some (.bytesOfLength 4)
    | 0xc7 => some (.extensionOfLength 1)
    | 0xc8 => some (.extensionOfLength 2)
    | 0xc9 => some (.extensionOfLength 4)
    | 0xca => some (.fraction 4)
    | 0xcb => some (.fraction 8)
    | 0xcc => some (.natural 1)
    | 0xcd => some (.natural 2)
    | 0xce => some (.natural 4)
    | 0xcf => some (.natural 8)
    | 0xd0 => some (.integer 1)
    | 0xd1 => some (.integer 2)
    | 0xd2 => some (.integer 4)
    | 0xd3 => some (.integer 8)
    | 0xd4 => some (.extension 1)
    | 0xd5 => some (.extension 2)
    | 0xd6 => some (.extension 4)
    | 0xd7 => some (.extension 8)
    | 0xd8 => some (.extension 16)
    | 0xd9 => some (.textOfLength 1)
    | 0xda => some (.textOfLength 2)
    | 0xdb => some (.textOfLength 4)
    | 0xdc => some (.listOfLength 2)
    | 0xdd => some (.listOfLength 4)
    | 0xde => some (.mapOfLength 2)
    | 0xdf => some (.mapOfLength 4)
    | _ => none

/-- Skips the kind and the bytes of an extension. -/
def takeExtension (length : Nat) (bytes : List UInt8) : Option (Pack × List UInt8) :=
  (takeBytes (length + 1) bytes).map fun (_, rest) => (.extension, rest)

mutual

/-- The value at the start of some bytes, with what follows.  `fuel` bounds the number of steps. -/
def readPack : Nat → List UInt8 → Option (Pack × List UInt8)
  | 0, _ => none
  | _ + 1, [] => none
  | fuel + 1, byte :: rest => do
    match ← PackStart.ofByte byte.toNat with
    | .value value => return (value, rest)
    | .natural size =>
      let (value, rest) ← takeNumber size 0 rest
      return (.integer false value, rest)
    | .integer size =>
      let (value, rest) ← takeSigned size rest
      return (.integer true value, rest)
    | .fraction size =>
      let (_, rest) ← takeBytes size rest
      return (.fraction, rest)
    | .text length =>
      let (bytes, rest) ← takeBytes length rest
      return (.text bytes, rest)
    | .textOfLength size =>
      let (length, rest) ← takeNumber size 0 rest
      let (bytes, rest) ← takeBytes length rest
      return (.text bytes, rest)
    | .bytesOfLength size =>
      let (length, rest) ← takeNumber size 0 rest
      let (bytes, rest) ← takeBytes length rest
      return (.bytes bytes, rest)
    | .list length =>
      let (items, rest) ← readPacks fuel length rest
      return (.list items, rest)
    | .listOfLength size =>
      let (length, rest) ← takeNumber size 0 rest
      let (items, rest) ← readPacks fuel length rest
      return (.list items, rest)
    | .map length =>
      let (entries, rest) ← readPackEntries fuel length rest
      return (.map entries, rest)
    | .mapOfLength size =>
      let (length, rest) ← takeNumber size 0 rest
      let (entries, rest) ← readPackEntries fuel length rest
      return (.map entries, rest)
    | .extension length => takeExtension length rest
    | .extensionOfLength size =>
      let (length, rest) ← takeNumber size 0 rest
      takeExtension length rest

/-- So many values. -/
def readPacks : Nat → Nat → List UInt8 → Option (List Pack × List UInt8)
  | _, 0, bytes => some ([], bytes)
  | 0, _ + 1, _ => none
  | fuel + 1, count + 1, bytes => do
    let (first, bytes) ← readPack fuel bytes
    let (items, bytes) ← readPacks fuel count bytes
    return (first :: items, bytes)

/-- So many entries of a map. -/
def readPackEntries : Nat → Nat → List UInt8 → Option (List (Pack × Pack) × List UInt8)
  | _, 0, bytes => some ([], bytes)
  | 0, _ + 1, _ => none
  | fuel + 1, count + 1, bytes => do
    let (key, bytes) ← readPack fuel bytes
    let (value, bytes) ← readPack fuel bytes
    let (entries, bytes) ← readPackEntries fuel count bytes
    return ((key, value) :: entries, bytes)

end

mutual

/-- How many lists, maps and extensions stand in one another in a value. -/
def Pack.levels : Pack → Nat
  | .list items => levelsOfAll items + 1
  | .map entries => levelsOfEntries entries + 1
  | .extension => 1
  | _ => 0

/-- The levels of the deepest of some values. -/
def Pack.levelsOfAll : List Pack → Nat
  | [] => 0
  | first :: rest => max first.levels (levelsOfAll rest)

/-- The levels of the deepest key or value of a map. -/
def Pack.levelsOfEntries : List (Pack × Pack) → Nat
  | [] => 0
  | (key, value) :: rest => max (max key.levels value.levels) (levelsOfEntries rest)

end

/-- No value of that many levels is read.  A reader gives up at the innermost of them, wherever it
stands, so it does not matter that the levels are counted when all is read. -/
def Pack.levelLimit : Nat := 1024

/-- Which field a key names, if any, unless it cannot be a key. -/
def Fields.ofKey (fields : Fields) : Pack → Option (Option (Nat × Schema))
  | .text content | .bytes content => some ((Text.ofBytes? content).bind fields.find?)
  | .integer false value => some (fields.at? value.toNat)
  | _ => none

mutual

/-- Reads a value of a schema. -/
def Pack.read (schema : Schema) : Pack → Option Value
  | .null => match schema with
    | .optional _ => some .absent
    | _ => none
  | .boolean value => match schema.required with
    | .boolean => some (schema.wrap (.boolean value))
    | _ => none
  | .integer _ value => match schema.required with
    | .natural bits =>
      if 0 ≤ value ∧ value < 2 ^ bits then some (schema.wrap (.natural value.toNat)) else none
    | .integer bits =>
      if -(2 ^ (bits - 1)) ≤ value ∧ value < 2 ^ (bits - 1) then
        some (schema.wrap (.integer value))
      else none
    | _ => none
  | .text content | .bytes content => match schema.required with
    | .text => (Text.ofBytes? content).map fun text => schema.wrap (.text text)
    | _ => none
  | .list items => match schema.required with
    | .list inner => (readEach inner items).map fun values => schema.wrap (.list values)
    | .record fields => (readPositions fields items).map fun values => schema.wrap (.record values)
    | _ => none
  | .map entries => match schema.required with
    | .record fields =>
      (readFields fields (List.replicate fields.size none) entries).map fun values =>
        schema.wrap (.record values)
    | _ => none
  | .fraction | .extension => none

/-- Reads values of one schema. -/
def Pack.readEach (schema : Schema) : List Pack → Option (List Value)
  | [] => some []
  | first :: rest => do
    let value ← first.read schema
    return value :: (← readEach schema rest)

/-- Reads a record that is written as the list of its fields. -/
def Pack.readPositions : Fields → List Pack → Option (List Value)
  | .nil, [] => some []
  | .nil, _ :: _ => none
  | fields, [] => (fields.fill []).toOption
  | .cons _ _ schema fields, first :: rest => do
    let value ← first.read schema
    return value :: (← readPositions fields rest)

/-- Reads the fields of a record; `slots` holds those that were read already. -/
def Pack.readFields (fields : Fields) (slots : List (Option Value)) :
    List (Pack × Pack) → Option (List Value)
  | [] => (fields.fill slots).toOption
  | (key, value) :: rest => do
    match ← fields.ofKey key with
    | none => readFields fields slots rest
    | some (index, schema) =>
      if (slots[index]?.join).isSome then none
      let read ← value.read schema
      readFields fields (slots.set index (some read)) rest

end

namespace Format

/-- The bytes of a value. -/
def pack (format : Format α) (value : α) : List UInt8 := format.schema.pack (format.toValue value)

/-- Reads a value from the start of some bytes; what follows it does not count.  Fields that the format
does not have are skipped, but they must not be nested too deeply either. -/
def unpack? (format : Format α) (bytes : List UInt8) : Option α := do
  let (packed, _) ← readPack (2 * bytes.length + 2) bytes
  if packed.levels < Pack.levelLimit then
    format.ofValue? (← packed.read format.schema)
  else none

end Format

end SyntaxExplorer.Wire
