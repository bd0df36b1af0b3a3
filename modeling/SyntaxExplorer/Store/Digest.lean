/-!
The XXH3 digest of 64 bits, without a seed.  Short inputs are mixed at once; long ones go through eight
lanes, one stripe of sixty-four bytes after another.
-/

namespace SyntaxExplorer.Digest

/-- The bytes that inputs are mixed with. -/
def secret : Array UInt8 := #[
  0xb8, 0xfe, 0x6c, 0x39, 0x23, 0xa4, 0x4b, 0xbe, 0x7c, 0x01, 0x81, 0x2c, 0xf7, 0x21, 0xad, 0x1c,
  0xde, 0xd4, 0x6d, 0xe9, 0x83, 0x90, 0x97, 0xdb, 0x72, 0x40, 0xa4, 0xa4, 0xb7, 0xb3, 0x67, 0x1f,
  0xcb, 0x79, 0xe6, 0x4e, 0xcc, 0xc0, 0xe5, 0x78, 0x82, 0x5a, 0xd0, 0x7d, 0xcc, 0xff, 0x72, 0x21,
  0xb8, 0x08, 0x46, 0x74, 0xf7, 0x43, 0x24, 0x8e, 0xe0, 0x35, 0x90, 0xe6, 0x81, 0x3a, 0x26, 0x4c,
  0x3c, 0x28, 0x52, 0xbb, 0x91, 0xc3, 0x00, 0xcb, 0x88, 0xd0, 0x65, 0x8b, 0x1b, 0x53, 0x2e, 0xa3,
  0x71, 0x64, 0x48, 0x97, 0xa2, 0x0d, 0xf9, 0x4e, 0x38, 0x19, 0xef, 0x46, 0xa9, 0xde, 0xac, 0xd8,
  0xa8, 0xfa, 0x76, 0x3f, 0xe3, 0x9c, 0x34, 0x3f, 0xf9, 0xdc, 0xbb, 0xc7, 0xc7, 0x0b, 0x4f, 0x1d,
  0x8a, 0x51, 0xe0, 0x4b, 0xcd, 0xb4, 0x59, 0x31, 0xc8, 0x9f, 0x7e, 0xc9, 0xd9, 0x78, 0x73, 0x64,
  0xea, 0xc5, 0xac, 0x83, 0x34, 0xd3, 0xeb, 0xc3, 0xc5, 0x81, 0xa0, 0xff, 0xfa, 0x13, 0x63, 0xeb,
  0x17, 0x0d, 0xdd, 0x51, 0xb7, 0xf0, 0xda, 0x49, 0xd3, 0x16, 0x55, 0x26, 0x29, 0xd4, 0x68, 0x9e,
  0x2b, 0x16, 0xbe, 0x58, 0x7d, 0x47, 0xa1, 0xfc, 0x8f, 0xf8, 0xb8, 0xd1, 0x7a, 0xd0, 0x31, 0xce,
  0x45, 0xcb, 0x3a, 0x8f, 0x95, 0x16, 0x04, 0x28, 0xaf, 0xd7, 0xfb, 0xca, 0xbb, 0x4b, 0x40, 0x7e]

def prime32A : UInt64 := 0x9E3779B1
def prime32B : UInt64 := 0x85EBCA77
def prime32C : UInt64 := 0xC2B2AE3D
def primeA : UInt64 := 0x9E3779B185EBCA87
def primeB : UInt64 := 0xC2B2AE3D27D4EB4F
def primeC : UInt64 := 0x165667B19E3779F9
def primeD : UInt64 := 0x85EBCA77C2B2AE63
def primeE : UInt64 := 0x27D4EB2F165667C5
def mixerA : UInt64 := 0x165667919E3779F9
def mixerB : UInt64 := 0x9FB21C651E98DF25

/-- So many bytes from a place on, the least significant first. -/
def word (bytes : Array UInt8) (place : Nat) : Nat → UInt64
  | 0 => 0
  | count + 1 => (bytes.getD place 0).toUInt64 ||| (word bytes (place + 1) count <<< 8)

def word32 (bytes : Array UInt8) (place : Nat) : UInt64 := word bytes place 4

def word64 (bytes : Array UInt8) (place : Nat) : UInt64 := word bytes place 8

def rotateLeft (value count : UInt64) : UInt64 := (value <<< count) ||| (value >>> (64 - count))

/-- A word with its bytes in reverse. -/
def reverseBytes (value : UInt64) : UInt64 :=
  (List.range 8).foldl (fun reversed i =>
    (reversed <<< 8) ||| ((value >>> (8 * i).toUInt64) &&& 0xff)) 0

/-- The two halves of a product of 128 bits, mixed. -/
def foldProduct (left right : UInt64) : UInt64 :=
  let product := left.toNat * right.toNat
  product.toUInt64 ^^^ (product >>> 64).toUInt64

def avalanche (value : UInt64) : UInt64 :=
  let value := (value ^^^ (value >>> 37)) * mixerA
  value ^^^ (value >>> 32)

def shortAvalanche (value : UInt64) : UInt64 :=
  let value := (value ^^^ (value >>> 33)) * primeB
  let value := (value ^^^ (value >>> 29)) * primeC
  value ^^^ (value >>> 32)

def ofEmpty : UInt64 := shortAvalanche (word64 secret 56 ^^^ word64 secret 64)

/-- The digest of up to three bytes. -/
def ofFew (bytes : Array UInt8) : UInt64 :=
  let first := (bytes.getD 0 0).toUInt64
  let middle := (bytes.getD (bytes.size / 2) 0).toUInt64
  let last := (bytes.getD (bytes.size - 1) 0).toUInt64
  let combined := (first <<< 16) ||| (middle <<< 24) ||| last ||| (bytes.size.toUInt64 <<< 8)
  shortAvalanche (combined ^^^ (word32 secret 0 ^^^ word32 secret 4))

/-- The digest of four to eight bytes. -/
def ofHalfWords (bytes : Array UInt8) : UInt64 :=
  let first := word32 bytes 0
  let last := word32 bytes (bytes.size - 4)
  let value := (last + (first <<< 32)) ^^^ (word64 secret 8 ^^^ word64 secret 16)
  let value := (value ^^^ rotateLeft value 49 ^^^ rotateLeft value 24) * mixerB
  let value := (value ^^^ ((value >>> 35) + bytes.size.toUInt64)) * mixerB
  value ^^^ (value >>> 28)

/-- The digest of nine to sixteen bytes. -/
def ofWords (bytes : Array UInt8) : UInt64 :=
  let low := word64 bytes 0 ^^^ (word64 secret 24 ^^^ word64 secret 32)
  let high := word64 bytes (bytes.size - 8) ^^^ (word64 secret 40 ^^^ word64 secret 48)
  avalanche (bytes.size.toUInt64 + reverseBytes low + high + foldProduct low high)

/-- Sixteen bytes, mixed with sixteen bytes of the secret. -/
def mix (bytes : Array UInt8) (place key : Nat) : UInt64 :=
  foldProduct (word64 bytes place ^^^ word64 secret key)
    (word64 bytes (place + 8) ^^^ word64 secret (key + 8))

/-- The digest of 17 to 128 bytes: pairs of chunks from both ends. -/
def ofPairs (bytes : Array UInt8) : UInt64 :=
  let pairs := (List.range 4).filter fun i => i == 0 || 32 * i < bytes.size
  avalanche (pairs.foldl (fun sum i =>
    sum + mix bytes (16 * i) (32 * i) + mix bytes (bytes.size - 16 * (i + 1)) (32 * i + 16))
    (bytes.size.toUInt64 * primeA))

/-- The digest of 129 to 240 bytes. -/
def ofChunks (bytes : Array UInt8) : UInt64 :=
  let start := avalanche ((List.range 8).foldl (fun sum i => sum + mix bytes (16 * i) (16 * i))
    (bytes.size.toUInt64 * primeA))
  let sum := (List.range (bytes.size / 16 - 8)).foldl
    (fun sum i => sum + mix bytes (16 * (i + 8)) (16 * i + 3)) start
  avalanche (sum + mix bytes (bytes.size - 16) 119)

def startLanes : Array UInt64 :=
  #[prime32C, primeA, primeB, primeC, primeD, prime32B, primeE, prime32A]

def lowHalf : UInt64 := 0xffffffff

/-- Takes a stripe into the lanes. -/
def accumulate (bytes : Array UInt8) (place key : Nat) (lanes : Array UInt64) : Array UInt64 :=
  ((List.range 8).map fun i =>
    let keyed := word64 bytes (place + 8 * i) ^^^ word64 secret (key + 8 * i)
    let other := if i % 2 = 0 then i + 1 else i - 1
    lanes.getD i 0 + word64 bytes (place + 8 * other) +
      (keyed &&& lowHalf) * (keyed >>> 32)).toArray

/-- Takes stripes from a place on into the lanes. -/
def accumulateAll (bytes : Array UInt8) (place count : Nat) (lanes : Array UInt64) : Array UInt64 :=
  (List.range count).foldl (fun lanes i => accumulate bytes (place + 64 * i) (8 * i) lanes) lanes

/-- Mixes the lanes at the end of a block. -/
def scramble (lanes : Array UInt64) : Array UInt64 :=
  ((List.range 8).map fun i =>
    let lane := lanes.getD i 0
    (lane ^^^ (lane >>> 47) ^^^ word64 secret (128 + 8 * i)) * prime32A).toArray

/-- The digest of more than 240 bytes: blocks of sixteen stripes, and a last stripe up to the end. -/
def ofBlocks (bytes : Array UInt8) : UInt64 :=
  let blocks := (bytes.size - 1) / 1024
  let lanes := (List.range blocks).foldl
    (fun lanes i => scramble (accumulateAll bytes (1024 * i) 16 lanes)) startLanes
  let lanes := accumulateAll bytes (1024 * blocks) ((bytes.size - 1 - 1024 * blocks) / 64) lanes
  let lanes := accumulate bytes (bytes.size - 64) 121 lanes
  avalanche ((List.range 4).foldl (fun sum i =>
    sum + foldProduct (lanes.getD (2 * i) 0 ^^^ word64 secret (11 + 16 * i))
      (lanes.getD (2 * i + 1) 0 ^^^ word64 secret (19 + 16 * i)))
    (bytes.size.toUInt64 * primeA))

/-- The digest of some bytes. -/
def ofBytes (bytes : Array UInt8) : UInt64 :=
  if bytes.size = 0 then ofEmpty
  else if bytes.size ≤ 3 then ofFew bytes
  else if bytes.size ≤ 8 then ofHalfWords bytes
  else if bytes.size ≤ 16 then ofWords bytes
  else if bytes.size ≤ 128 then ofPairs bytes
  else if bytes.size ≤ 240 then ofChunks bytes
  else ofBlocks bytes

/-- The digest of a text, in sixteen hexadecimal digits. -/
def ofText (text : String) : String :=
  let digits := Nat.toDigits 16 (ofBytes text.toUTF8.data).toNat
  String.ofList (List.replicate (16 - digits.length) '0' ++ digits)

end SyntaxExplorer.Digest
