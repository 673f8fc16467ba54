import Recollection.Number.Word
/-!
# SHA-256

The digest of a sequence of bytes: the message is padded to whole blocks of sixteen words, each
block is expanded to sixty-four words, and the words drive sixty-four rounds on a state of eight.
Fingerprints of records and of adapter calls are such digests, in lower-case hexadecimal.
-/

set_option autoImplicit false

namespace Recollection.Sha256

open Word (rotateRight)

/-- The round constants: the first fractional bits of the cube roots of the first primes. -/
def roundConstants : List UInt32 := [
  0x428A2F98, 0x71374491, 0xB5C0FBCF, 0xE9B5DBA5, 0x3956C25B, 0x59F111F1, 0x923F82A4, 0xAB1C5ED5,
  0xD807AA98, 0x12835B01, 0x243185BE, 0x550C7DC3, 0x72BE5D74, 0x80DEB1FE, 0x9BDC06A7, 0xC19BF174,
  0xE49B69C1, 0xEFBE4786, 0x0FC19DC6, 0x240CA1CC, 0x2DE92C6F, 0x4A7484AA, 0x5CB0A9DC, 0x76F988DA,
  0x983E5152, 0xA831C66D, 0xB00327C8, 0xBF597FC7, 0xC6E00BF3, 0xD5A79147, 0x06CA6351, 0x14292967,
  0x27B70A85, 0x2E1B2138, 0x4D2C6DFC, 0x53380D13, 0x650A7354, 0x766A0ABB, 0x81C2C92E, 0x92722C85,
  0xA2BFE8A1, 0xA81A664B, 0xC24B8B70, 0xC76C51A3, 0xD192E819, 0xD6990624, 0xF40E3585, 0x106AA070,
  0x19A4C116, 0x1E376C08, 0x2748774C, 0x34B0BCB5, 0x391C0CB3, 0x4ED8AA4A, 0x5B9CCA4F, 0x682E6FF3,
  0x748F82EE, 0x78A5636F, 0x84C87814, 0x8CC70208, 0x90BEFFFA, 0xA4506CEB, 0xBEF9A3F7, 0xC67178F2]

/-- The chaining state. -/
structure State where
  /-- The first word. -/
  a : UInt32
  /-- The second word. -/
  b : UInt32
  /-- The third word. -/
  c : UInt32
  /-- The fourth word. -/
  d : UInt32
  /-- The fifth word. -/
  e : UInt32
  /-- The sixth word. -/
  f : UInt32
  /-- The seventh word. -/
  g : UInt32
  /-- The eighth word. -/
  h : UInt32
deriving DecidableEq, Repr

/-- The state before the first block: the first fractional bits of square roots of primes. -/
def initial : State :=
  ⟨0x6A09E667, 0xBB67AE85, 0x3C6EF372, 0xA54FF53A,
   0x510E527F, 0x9B05688C, 0x1F83D9AB, 0x5BE0CD19⟩

/-! ## The message -/

/-- The eight bytes of a length in bits, the most significant first. -/
def lengthBytes (bits : Nat) : List UInt8 :=
  (List.range 8).map fun i => UInt8.ofNat (bits / Nat.pow 256 (7 - i))

/-- The number of zeros that fill the last block. -/
def paddingZeros (size : Nat) : Nat :=
  (119 - size % 64) % 64

/-- The message, a set bit, zeros, and the length of the message in bits. -/
def pad (message : List UInt8) : List UInt8 :=
  message ++ 0x80 :: List.replicate (paddingZeros message.length) 0 ++
    lengthBytes (8 * message.length)

/-- The words of some bytes, the most significant byte of each first. -/
def toWords : List UInt8 → List UInt32
  | a :: b :: c :: d :: rest =>
    ((a.toUInt32 <<< 24) ||| (b.toUInt32 <<< 16) ||| (c.toUInt32 <<< 8) ||| d.toUInt32) ::
      toWords rest
  | _ => []

/-! ## One block -/

/-- The schedule in reverse, with `count` words more: each new word depends on the last sixteen. -/
def expand : Nat → List UInt32 → List UInt32
  | 0, words => words
  | count + 1, words =>
    let x := words.getD 14 0
    let y := words.getD 1 0
    let small := rotateRight x 7 ^^^ rotateRight x 18 ^^^ (x >>> 3)
    let large := rotateRight y 17 ^^^ rotateRight y 19 ^^^ (y >>> 10)
    expand count ((words.getD 15 0 + small + words.getD 6 0 + large) :: words)

/-- The sixty-four words of a block's schedule. -/
def schedule (block : List UInt32) : List UInt32 :=
  (expand 48 block.reverse).reverse

/-- One round, with its constant and its word of the schedule. -/
def round (s : State) (constant word : UInt32) : State :=
  let large := rotateRight s.e 6 ^^^ rotateRight s.e 11 ^^^ rotateRight s.e 25
  let choice := (s.e &&& s.f) ^^^ (~~~s.e &&& s.g)
  let first := s.h + large + choice + constant + word
  let small := rotateRight s.a 2 ^^^ rotateRight s.a 13 ^^^ rotateRight s.a 22
  let majority := (s.a &&& s.b) ^^^ (s.a &&& s.c) ^^^ (s.b &&& s.c)
  ⟨first + (small + majority), s.a, s.b, s.c, s.d + first, s.e, s.f, s.g⟩

/-- The state after a block. -/
def compress (s : State) (block : List UInt32) : State :=
  let t := (roundConstants.zip (schedule block)).foldl (fun t (k, w) => round t k w) s
  ⟨s.a + t.a, s.b + t.b, s.c + t.c, s.d + t.d, s.e + t.e, s.f + t.f, s.g + t.g, s.h + t.h⟩

/-- The state after the given number of blocks of sixteen words. -/
def absorb : Nat → State → List UInt32 → State
  | 0, s, _ => s
  | blocks + 1, s, words => absorb blocks (compress s (words.take 16)) (words.drop 16)

/-- The state after a whole message. -/
def digest (message : List UInt8) : State :=
  let words := toWords (pad message)
  absorb (words.length / 16) initial words

/-! ## Text -/

/-- A word as eight lower-case hexadecimal digits. -/
def hexWord (word : UInt32) : List Char :=
  (List.range 8).map fun i => (word.toNat / Nat.pow 16 (7 - i) % 16).digitChar

/-- The state as sixty-four lower-case hexadecimal digits. -/
def State.hex (s : State) : String :=
  String.ofList ([s.a, s.b, s.c, s.d, s.e, s.f, s.g, s.h].flatMap hexWord)

/-- The digest of a text's bytes, in lower-case hexadecimal. -/
def ofText (text : String) : String :=
  (digest text.toUTF8.toList).hex

end Recollection.Sha256
