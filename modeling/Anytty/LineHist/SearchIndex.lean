import Anytty.LineHist.Line

/-!
# The search filter of a block

Each block has a filter of 8 KiB: a set of the bytes that occur in its lines, and two hashed
filters for its pairs and triples of bytes.  The bits of the three parts lie one after the other, so
the whole filter is one number.
-/

namespace Anytty.LineHist

open Anytty.Wire

def searchIndexByteSetBytes : Nat := 256 / 8
def searchIndexBigramBloomBytes : Nat := 512
def searchIndexBloomBytes : Nat := 8 * 1024
def searchIndexBigramBloomEnd : Nat := searchIndexByteSetBytes + searchIndexBigramBloomBytes
def searchIndexTrigramBloomBytes : Nat := searchIndexBloomBytes - searchIndexBigramBloomEnd
def searchIndexBigramHashCount : Nat := 4
def searchIndexTrigramHashCount : Nat := 7
def searchIndexMaxUniqueTrigrams : Nat := 32 * 1024

/-- `byteBigram` and `byteTrigram`: the bytes as one number, the first byte highest. -/
def gramValue (gram : Bytes) : UInt64 :=
  gram.foldl (fun value byte => value <<< 8 ||| byte.toUInt64) 0

def mixSearchIndexHash (value : UInt64) : UInt64 :=
  let value := value ^^^ value >>> 30
  let value := value * 0xbf58476d1ce4e5b9
  let value := value ^^^ value >>> 27
  let value := value * 0x94d049bb133111eb
  value ^^^ value >>> 31

/-- The bits of a gram in a hashed part: `count` steps from a first hash, all modulo the part. -/
def hashedBits (seed stepSeed : UInt64) (count start bits : Nat) (gram : Bytes) : List Nat :=
  let first := mixSearchIndexHash (gramValue gram + seed)
  let step := mixSearchIndexHash (gramValue gram + stepSeed) ||| 1
  (List.range count).map fun hash => start + (first + hash.toUInt64 * step).toNat % bits

/-- The bit of a byte in the byte set. -/
def byteBits (byte : Bytes) : List Nat := byte.map UInt8.toNat

def bigramBits : Bytes → List Nat :=
  hashedBits 0xa0761d6478bd642f 0xe7037ed1a0b428db searchIndexBigramHashCount
    (searchIndexByteSetBytes * 8) (searchIndexBigramBloomBytes * 8)

def trigramBits : Bytes → List Nat :=
  hashedBits 0x9e3779b97f4a7c15 0xd1b54a32d192ed03 searchIndexTrigramHashCount
    (searchIndexBigramBloomEnd * 8) (searchIndexTrigramBloomBytes * 8)

/-- Every bit a triple can have. -/
def allTrigramBits : List Nat :=
  List.range' (searchIndexBigramBloomEnd * 8) (searchIndexTrigramBloomBytes * 8)

/-- The bits of the triples of a block: all of them if there are too many different ones. -/
def blockTrigramBits (trigrams : List Bytes) : List Nat :=
  if trigrams.dedup.length > searchIndexMaxUniqueTrigrams then allTrigramBits
  else trigrams.dedup.flatMap trigramBits

/-- Set the bits at these positions. -/
def addBits (bits : Nat) (positions : List Nat) : Nat :=
  positions.foldl (fun bits position => bits ||| 1 <<< position) bits

/-- The parts of a text that have this length, from left to right. -/
def windows (length : Nat) (text : Bytes) : List Bytes :=
  (List.range (text.length + 1 - length)).map fun index => (text.drop index).take length

def buildBlockSearchBloom (lines : List Line) : Nat :=
  let texts := lines.map lineText
  addBits (addBits (addBits 0 ((texts.flatMap (windows 1)).flatMap byteBits))
    ((texts.flatMap (windows 2)).flatMap bigramBits)) (blockTrigramBits (texts.flatMap (windows 3)))

end Anytty.LineHist
