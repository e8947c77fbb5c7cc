import ClassSpacing.Text.Utf8

/-!
# A 64-bit digest

`Digest.xxh3` is the 64-bit XXH3 hash with seed zero. Short inputs are mixed directly, in four
classes of length; inputs above 240 bytes are folded into eight accumulators, 64 bytes at a time,
which are scrambled after every 1024 bytes.
-/

namespace ClassSpacing.Digest

/-! ## Constants -/

/-- The first 32-bit prime. -/
def prime32a : UInt64 := 0x9E3779B1

/-- The second 32-bit prime. -/
def prime32b : UInt64 := 0x85EBCA77

/-- The third 32-bit prime. -/
def prime32c : UInt64 := 0xC2B2AE3D

/-- The first 64-bit prime. -/
def prime64a : UInt64 := 0x9E3779B185EBCA87

/-- The second 64-bit prime. -/
def prime64b : UInt64 := 0xC2B2AE3D27D4EB4F

/-- The third 64-bit prime. -/
def prime64c : UInt64 := 0x165667B19E3779F9

/-- The fourth 64-bit prime. -/
def prime64d : UInt64 := 0x85EBCA77C2B2AE63

/-- The fifth 64-bit prime. -/
def prime64e : UInt64 := 0x27D4EB2F165667C5

/-- The prime that digests are mixed with at the end. -/
def primeMixA : UInt64 := 0x165667919E3779F9

/-- The prime that inputs of four to eight bytes are mixed with. -/
def primeMixB : UInt64 := 0x9FB21C651E98DF25

/-- The default secret: 192 bytes that are mixed into the input. -/
def secret : Array UInt8 := #[
  0xb8, 0xfe, 0x6c, 0x39, 0x23, 0xa4, 0x4b, 0xbe, 0x7c, 0x01, 0x81, 0x2c, 0xf7, 0x21, 0xad, 0x1c,
  0xde, 0xd4, 0x6d, 0xe9, 0x83, 0x90, 0x97, 0xdb, 0x72, 0x40, 0xa4, 0xa4, 0xb7, 0xb3, 0x67, 0x1f,
  0xcb, 0x79, 0xe6, 0x4e, 0xcc, 0xc0, 0xe5, 0x78, 0x82, 0x5a, 0xd0, 0x7d, 0xcc, 0xff, 0x72, 0x21,
  0xb8, 0x08, 0x46, 0x74, 0xf7, 0x43, 0x24, 0x8e, 0xe0, 0x35, 0x90, 0xe6, 0x81, 0x3a, 0x26, 0x4c,
  0x3c, 0x28, 0x52, 0xbb, 0x91, 0xc3, 0x00, 0xcb, 0x88, 0xd0, 0x65, 0x8b, 0x1b, 0x53, 0x2e, 0xa3,
  0x71, 0x64, 0x48, 0x97, 0xa2, 0x0d, 0xf9, 0x4e, 0x38, 0x19, 0xef, 0x46, 0xa9, 0xde, 0xac, 0xd8,
  0xa8, 0xfa, 0x76, 0x3f, 0xe3, 0x9c, 0x34, 0x3f, 0xf9, 0xdc, 0xbb, 0xc7, 0xc7, 0x0b, 0x4f, 0x1d,
  0x8a, 0x51, 0xe0, 0x4b, 0xcd, 0xb4, 0x59, 0x31, 0xc8, 0x9f, 0x7e, 0xc9, 0xd9, 0x78, 0x73, 0x64,
  0xea, 0xc5, 0xac, 0x83, 0x34, 0xd3, 0xeb, 0xc3, 0xc5, 0x81, 0xa0, 0xff, 0xfa, 0x13, 0x63, 0xeb,
  0x17, 0x0d, 0xdd, 0x51, 0xb7, 0xf0, 0xda, 0x49, 0xd3, 0x16, 0x55, 0x26, 0x29, 0xd4, 0x68, 0x9e,
  0x2b, 0x16, 0xbe, 0x58, 0x7d, 0x47, 0xa1, 0xfc, 0x8f, 0xf8, 0xb8, 0xd1, 0x7a, 0xd0, 0x31, 0xce,
  0x45, 0xcb, 0x3a, 0x8f, 0x95, 0x16, 0x04, 0x28, 0xaf, 0xd7, 0xfb, 0xca, 0xbb, 0x4b, 0x40, 0x7e]

/-! ## Words of bytes -/

/-- The number that `count` bytes at `i` denote, least significant byte first. -/
def readLittle (bytes : Array UInt8) (count i : Nat) : UInt64 :=
  (List.range count).foldr (fun k acc => acc <<< 8 ||| (bytes.getD (i + k) 0).toUInt64) 0

/-- The 32-bit word at `i`. -/
def read32 (bytes : Array UInt8) (i : Nat) : UInt64 := readLittle bytes 4 i

/-- The 64-bit word at `i`. -/
def read64 (bytes : Array UInt8) (i : Nat) : UInt64 := readLittle bytes 8 i

/-- The word with its eight bytes in reverse order. -/
def swapBytes (w : UInt64) : UInt64 :=
  (List.range 8).foldl (fun acc k => acc <<< 8 ||| (w >>> (8 * k).toUInt64 &&& 0xFF)) 0

/-- The word with its bits turned left. -/
def rotateLeft (w count : UInt64) : UInt64 :=
  w <<< count ||| w >>> (64 - count)

/-- The number of words of 64 bits. -/
def wordCount : Nat := 0x10000000000000000

/-- The exclusive or of the two halves of the 128-bit product. -/
def foldedProduct (a b : UInt64) : UInt64 :=
  let product := a.toNat * b.toNat
  (product % wordCount).toUInt64 ^^^ (product / wordCount).toUInt64

/-! ## Final mixing -/

/-- Spreads the bits of an accumulated word. -/
def avalanche (h : UInt64) : UInt64 :=
  let h := (h ^^^ h >>> 37) * primeMixA
  h ^^^ h >>> 32

/-- Spreads the bits of a word built from at most three bytes. -/
def avalancheShort (h : UInt64) : UInt64 :=
  let h := (h ^^^ h >>> 33) * prime64b
  let h := (h ^^^ h >>> 29) * prime64c
  h ^^^ h >>> 32

/-- Spreads the bits of a word built from four to eight bytes. -/
def avalancheWord (h length : UInt64) : UInt64 :=
  let h := (h ^^^ rotateLeft h 49 ^^^ rotateLeft h 24) * primeMixB
  let h := (h ^^^ ((h >>> 35) + length)) * primeMixB
  h ^^^ h >>> 28

/-! ## Inputs up to 240 bytes -/

/-- Mixes 16 bytes of input with 16 bytes of the secret. -/
def mix16 (input : Array UInt8) (i k : Nat) : UInt64 :=
  foldedProduct (read64 input i ^^^ read64 secret k)
    (read64 input (i + 8) ^^^ read64 secret (k + 8))

/-- The digest of at most 16 bytes. -/
def upTo16 (input : Array UInt8) : UInt64 :=
  let n := input.size
  let length := n.toUInt64
  let byte (i : Nat) : UInt64 := (input.getD i 0).toUInt64
  if n == 0 then
    avalancheShort (read64 secret 56 ^^^ read64 secret 64)
  else if n ≤ 3 then
    let word := byte 0 <<< 16 ||| byte (n / 2) <<< 24 ||| byte (n - 1) ||| length <<< 8
    avalancheShort (word ^^^ (read32 secret 0 ^^^ read32 secret 4))
  else if n ≤ 8 then
    let word := read32 input (n - 4) + read32 input 0 <<< 32
    avalancheWord (word ^^^ (read64 secret 8 ^^^ read64 secret 16)) length
  else
    let low := read64 input 0 ^^^ (read64 secret 24 ^^^ read64 secret 32)
    let high := read64 input (n - 8) ^^^ (read64 secret 40 ^^^ read64 secret 48)
    avalanche (length + swapBytes low + high + foldedProduct low high)

/-- The digest of 17 to 128 bytes: pairs of chunks from both ends towards the middle. -/
def upTo128 (input : Array UInt8) : UInt64 :=
  let n := input.size
  let pairs := (n - 1) / 32 + 1
  avalanche <| (List.range pairs).foldl
    (fun acc k => acc + mix16 input (16 * k) (32 * k) +
      mix16 input (n - 16 * (k + 1)) (32 * k + 16))
    (n.toUInt64 * prime64a)

/-- The digest of 129 to 240 bytes: eight chunks, then the others, then the last 16 bytes. -/
def upTo240 (input : Array UInt8) : UInt64 :=
  let n := input.size
  let first := (List.range 8).foldl (fun acc k => acc + mix16 input (16 * k) (16 * k))
    (n.toUInt64 * prime64a)
  let others := (List.range (n / 16 - 8)).foldl
    (fun acc k => acc + mix16 input (16 * (k + 8)) (16 * k + 3)) (avalanche first)
  avalanche (others + mix16 input (n - 16) (136 - 17))

/-! ## Longer inputs -/

/-- The accumulators before any input. -/
def initial : Array UInt64 :=
  #[prime32c, prime64a, prime64b, prime64c, prime64d, prime32b, prime64e, prime32a]

/-- Folds a stripe of 64 bytes at `i` into the accumulators, keyed by the secret at `k`. -/
def accumulate (input : Array UInt8) (acc : Array UInt64) (i k : Nat) : Array UInt64 :=
  (Array.range 8).map fun lane =>
    let partner := if lane % 2 == 0 then lane + 1 else lane - 1
    let keyed := read64 input (i + 8 * lane) ^^^ read64 secret (k + 8 * lane)
    let product := (keyed &&& (0xFFFFFFFF : UInt64)) * (keyed >>> 32)
    acc.getD lane 0 + read64 input (i + 8 * partner) + product

/-- Scrambles the accumulators at the end of a block. -/
def scramble (acc : Array UInt64) : Array UInt64 :=
  (Array.range 8).map fun lane =>
    let a := acc.getD lane 0
    (a ^^^ a >>> 47 ^^^ read64 secret (192 - 64 + 8 * lane)) * prime32a

/-- Folds `count` stripes from the start of block `block`. -/
def accumulateStripes (input : Array UInt8) (block count : Nat) (acc : Array UInt64) :
    Array UInt64 :=
  (List.range count).foldl (fun acc s => accumulate input acc (1024 * block + 64 * s) (8 * s)) acc

/-- The digest of more than 240 bytes. -/
def long (input : Array UInt8) : UInt64 :=
  let n := input.size
  let blocks := (n - 1) / 1024
  let acc := (List.range blocks).foldl
    (fun acc block => scramble (accumulateStripes input block 16 acc)) initial
  let acc := accumulateStripes input blocks ((n - 1 - 1024 * blocks) / 64) acc
  let acc := accumulate input acc (n - 64) (192 - 64 - 7)
  avalanche <| (List.range 4).foldl
    (fun sum k => sum + foldedProduct (acc.getD (2 * k) 0 ^^^ read64 secret (11 + 16 * k))
      (acc.getD (2 * k + 1) 0 ^^^ read64 secret (11 + 16 * k + 8)))
    (n.toUInt64 * prime64a)

/-- The 64-bit XXH3 hash of some bytes, with seed zero. -/
def xxh3 (bytes : Bytes) : UInt64 :=
  let input := bytes.toArray
  if input.size ≤ 16 then upTo16 input
  else if input.size ≤ 128 then upTo128 input
  else if input.size ≤ 240 then upTo240 input
  else long input

/-- A digest as sixteen lower-case hexadecimal digits. -/
def toHex (digest : UInt64) : String :=
  let digits := Nat.toDigits 16 digest.toNat
  String.ofList (List.replicate (16 - digits.length) '0' ++ digits)

end ClassSpacing.Digest
