/-
This file holds the digest that keeps the names of registries apart. All arithmetic is modulo the
size of a word.
-/

namespace DataAccess.Digest

def multiplier : UInt64 := 0xf1357aea2e62a9c5

/-- One word is absorbed by adding it and multiplying. -/
def absorb (state word : UInt64) : UInt64 :=
  (state + word) * multiplier

def rotateLeft (word : UInt64) (count : UInt64) : UInt64 :=
  (word <<< count) ||| (word >>> (64 - count))

def finish (state : UInt64) : UInt64 :=
  rotateLeft state 26

/-- The halves of the double-word product, one xor the other. -/
def mix (first second : UInt64) : UInt64 :=
  let product := first.toNat * second.toNat
  UInt64.ofNat (product % UInt64.size) ^^^ UInt64.ofNat (product / UInt64.size)

/-- Bytes as a word, the lowest first. -/
def littleEndian (bytes : List UInt8) : UInt64 :=
  bytes.foldr (fun byte word => word * 256 + byte.toUInt64) 0

def readWord (bytes : List UInt8) (start width : Nat) : UInt64 :=
  littleEndian ((bytes.drop start).take width)

structure Lanes where
  first : UInt64
  second : UInt64

def seeds : Lanes := ⟨0x243f6a8885a308d3, 0x13198a2e03707344⟩

def chunkKey : UInt64 := 0xa4093822299f31d0

/-- The whole chunks of sixteen bytes in front of the last byte. -/
def absorbChunks : Nat → List UInt8 → Lanes → Lanes
  | 0, _, lanes => lanes
  | count + 1, bytes, lanes =>
      let mixed := mix (lanes.first ^^^ readWord bytes 0 8) (chunkKey ^^^ readWord bytes 8 8)
      absorbChunks count (bytes.drop 16) ⟨lanes.second, mixed⟩

def spread (bytes : List UInt8) (length : Nat) : Lanes :=
  if 16 < length then
    let lanes := absorbChunks ((length - 1) / 16) bytes seeds
    ⟨lanes.first ^^^ readWord bytes (length - 16) 8,
      lanes.second ^^^ readWord bytes (length - 8) 8⟩
  else if 8 ≤ length then
    ⟨seeds.first ^^^ readWord bytes 0 8, seeds.second ^^^ readWord bytes (length - 8) 8⟩
  else if 4 ≤ length then
    ⟨seeds.first ^^^ readWord bytes 0 4, seeds.second ^^^ readWord bytes (length - 4) 4⟩
  else if 1 ≤ length then
    ⟨seeds.first ^^^ readWord bytes 0 1,
      seeds.second ^^^ ((readWord bytes (length - 1) 1 <<< 8) ||| readWord bytes (length / 2) 1)⟩
  else seeds

/-- The digest of a byte string. -/
def ofBytes (bytes : List UInt8) : UInt64 :=
  let lanes := spread bytes bytes.length
  mix lanes.first lanes.second ^^^ UInt64.ofNat bytes.length

/-- A text adds the digest of its bytes and an end mark. -/
def absorbText (state : UInt64) (text : String) : UInt64 :=
  absorb (absorb state (ofBytes text.toUTF8.toList)) 0xff

def ofTexts (texts : List String) : UInt64 :=
  finish (texts.foldl absorbText 0)

/-- A word as sixteen hexadecimal digits. -/
def hexadecimal (word : UInt64) : String :=
  let digits := Nat.toDigits 16 word.toNat
  String.ofList (List.replicate (16 - digits.length) '0' ++ digits)

end DataAccess.Digest
