import Mathlib.Data.Vector.Basic

/-! Bytes of numbers, and the hash function SHA-256 on byte strings. -/

namespace Foundation

abbrev Byte : Type := BitVec 8

abbrev Word : Type := BitVec 32

/-- The lowest `count` bytes of a number, the least significant one first. -/
def littleEndian (number : Nat) : (count : Nat) → List Byte
  | 0 => []
  | count + 1 => BitVec.ofNat 8 number :: littleEndian (number / 256) count

/-- The lowest `count` bytes of a number, the most significant one first. -/
def bigEndian (number count : Nat) : List Byte := (littleEndian number count).reverse

/-- The first four bytes as a word, the most significant one first. -/
def wordOf : List Byte → Word
  | a :: b :: c :: d :: _ => a ++ b ++ c ++ d
  | _ => 0

/-- Cut off `count` pieces of `size` bytes. -/
def pieces (size : Nat) : (count : Nat) → List Byte → List (List Byte)
  | 0, _ => []
  | count + 1, bytes => bytes.take size :: pieces size count (bytes.drop size)

/-- The bytes that an offset and a length name. -/
def bytesAt (offset size : Nat) (bytes : List Byte) : List Byte := (bytes.drop offset).take size

@[simp] theorem length_littleEndian (number count : Nat)
    : (littleEndian number count).length = count := by
  induction count generalizing number with
  | zero => rfl
  | succ count ih => rw [littleEndian, List.length_cons, ih]

@[simp] theorem length_bigEndian (number count : Nat)
    : (bigEndian number count).length = count := by
  rw [bigEndian, List.length_reverse, length_littleEndian]

/-- A piece is found behind the bytes in front of it. -/
theorem bytesAt_append {offset size : Nat} {front piece : List Byte} (back : List Byte)
    (before : front.length = offset) (long : piece.length = size)
    : bytesAt offset size (front ++ (piece ++ back)) = piece := by
  rw [bytesAt, List.drop_left' before, List.take_left' long]

namespace Sha256

/-- The eight words a message is hashed into. -/
structure Digest where
  a : Word
  b : Word
  c : Word
  d : Word
  e : Word
  f : Word
  g : Word
  h : Word
deriving DecidableEq

def Digest.initial : Digest :=
  { a := 0x6a09e667, b := 0xbb67ae85, c := 0x3c6ef372, d := 0xa54ff53a
    e := 0x510e527f, f := 0x9b05688c, g := 0x1f83d9ab, h := 0x5be0cd19 }

def Digest.add (digest other : Digest) : Digest :=
  { a := digest.a + other.a, b := digest.b + other.b
    c := digest.c + other.c, d := digest.d + other.d
    e := digest.e + other.e, f := digest.f + other.f
    g := digest.g + other.g, h := digest.h + other.h }

/-- The bytes of the eight words, each most significant first. -/
def Digest.bytes (digest : Digest) : Vector Byte 32 :=
  let words := #v[digest.a, digest.b, digest.c, digest.d, digest.e, digest.f, digest.g, digest.h]
  .ofFn fun i : Fin 32 => (words[i.val / 4] >>> (8 * (3 - i.val % 4))).setWidth 8

def roundConstants : List Word :=
  [0x428a2f98, 0x71374491, 0xb5c0fbcf, 0xe9b5dba5, 0x3956c25b, 0x59f111f1,
    0x923f82a4, 0xab1c5ed5, 0xd807aa98, 0x12835b01, 0x243185be, 0x550c7dc3,
    0x72be5d74, 0x80deb1fe, 0x9bdc06a7, 0xc19bf174, 0xe49b69c1, 0xefbe4786,
    0x0fc19dc6, 0x240ca1cc, 0x2de92c6f, 0x4a7484aa, 0x5cb0a9dc, 0x76f988da,
    0x983e5152, 0xa831c66d, 0xb00327c8, 0xbf597fc7, 0xc6e00bf3, 0xd5a79147,
    0x06ca6351, 0x14292967, 0x27b70a85, 0x2e1b2138, 0x4d2c6dfc, 0x53380d13,
    0x650a7354, 0x766a0abb, 0x81c2c92e, 0x92722c85, 0xa2bfe8a1, 0xa81a664b,
    0xc24b8b70, 0xc76c51a3, 0xd192e819, 0xd6990624, 0xf40e3585, 0x106aa070,
    0x19a4c116, 0x1e376c08, 0x2748774c, 0x34b0bcb5, 0x391c0cb3, 0x4ed8aa4a,
    0x5b9cca4f, 0x682e6ff3, 0x748f82ee, 0x78a5636f, 0x84c87814, 0x8cc70208,
    0x90befffa, 0xa4506ceb, 0xbef9a3f7, 0xc67178f2]

/-- The next word of the schedule, from the sixteen words before it, latest first. -/
def nextWord (latest : List Word) : Word :=
  let near := latest.getD 1 0
  let far := latest.getD 14 0
  (near.rotateRight 17 ^^^ near.rotateRight 19 ^^^ near >>> 10) + latest.getD 6 0
    + (far.rotateRight 7 ^^^ far.rotateRight 18 ^^^ far >>> 3) + latest.getD 15 0

/-- Append `count` words to a schedule that is kept latest first. -/
def extendSchedule : (count : Nat) → List Word → List Word
  | 0, latest => latest
  | count + 1, latest => extendSchedule count (nextWord latest :: latest)

/-- One round on the working variables. -/
def Digest.round (digest : Digest) (constant word : Word) : Digest :=
  let { a, b, c, d, e, f, g, h } := digest
  let choice := (e &&& f) ^^^ (~~~e &&& g)
  let majority := (a &&& b) ^^^ (a &&& c) ^^^ (b &&& c)
  let mixed := h + (e.rotateRight 6 ^^^ e.rotateRight 11 ^^^ e.rotateRight 25) + choice
    + constant + word
  { a := mixed + (a.rotateRight 2 ^^^ a.rotateRight 13 ^^^ a.rotateRight 22) + majority
    b := a
    c := b
    d := c
    e := d + mixed
    f := e
    g := f
    h := g }

/-- Absorb one block of 64 bytes. -/
def Digest.absorb (digest : Digest) (block : List Byte) : Digest :=
  let schedule := (extendSchedule 48 ((pieces 4 16 block).map wordOf).reverse).reverse
  digest.add ((roundConstants.zip schedule).foldl
    (fun working step => working.round step.1 step.2) digest)

/-- A message with a one bit, zeroes and its length in bits, in whole blocks. -/
def padded (message : List Byte) : List Byte :=
  let zeroes := (119 - message.length % 64) % 64
  message ++ [0x80] ++ List.replicate zeroes 0 ++ bigEndian (8 * message.length) 8

end Sha256

/-- The 32 bytes of a message's hash. -/
def sha256 (message : List Byte) : Vector Byte 32 :=
  let blocks := Sha256.padded message
  ((pieces 64 (blocks.length / 64) blocks).foldl Sha256.Digest.absorb Sha256.Digest.initial).bytes

/-- The hash of the three letters `abc`. -/
example : (sha256 [0x61, 0x62, 0x63]).toList
    = bigEndian 0xba7816bf8f01cfea414140de5dae2223b00361a396177a9cb410ff61f20015ad 32 := by
  decide +kernel

end Foundation
