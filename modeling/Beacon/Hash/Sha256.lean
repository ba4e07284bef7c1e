import Beacon.Bytes.Basic

/-!
# SHA-256

The hash function of FIPS 180-4. A message is padded to blocks of 64 bytes, each block is expanded
to 64 words, and the words are mixed into a state of eight words.
-/

namespace Beacon.Sha256

/-- The eight working words. -/
structure State where
  a : UInt32
  b : UInt32
  c : UInt32
  d : UInt32
  e : UInt32
  f : UInt32
  g : UInt32
  h : UInt32

/-- The state before the first block. -/
def State.initial : State where
  a := 0x6a09e667
  b := 0xbb67ae85
  c := 0x3c6ef372
  d := 0xa54ff53a
  e := 0x510e527f
  f := 0x9b05688c
  g := 0x1f83d9ab
  h := 0x5be0cd19

/-- The constant of each of the 64 rounds. -/
def roundConstants : Array UInt32 := #[
  0x428a2f98, 0x71374491, 0xb5c0fbcf, 0xe9b5dba5, 0x3956c25b, 0x59f111f1, 0x923f82a4, 0xab1c5ed5,
  0xd807aa98, 0x12835b01, 0x243185be, 0x550c7dc3, 0x72be5d74, 0x80deb1fe, 0x9bdc06a7, 0xc19bf174,
  0xe49b69c1, 0xefbe4786, 0x0fc19dc6, 0x240ca1cc, 0x2de92c6f, 0x4a7484aa, 0x5cb0a9dc, 0x76f988da,
  0x983e5152, 0xa831c66d, 0xb00327c8, 0xbf597fc7, 0xc6e00bf3, 0xd5a79147, 0x06ca6351, 0x14292967,
  0x27b70a85, 0x2e1b2138, 0x4d2c6dfc, 0x53380d13, 0x650a7354, 0x766a0abb, 0x81c2c92e, 0x92722c85,
  0xa2bfe8a1, 0xa81a664b, 0xc24b8b70, 0xc76c51a3, 0xd192e819, 0xd6990624, 0xf40e3585, 0x106aa070,
  0x19a4c116, 0x1e376c08, 0x2748774c, 0x34b0bcb5, 0x391c0cb3, 0x4ed8aa4a, 0x5b9cca4f, 0x682e6ff3,
  0x748f82ee, 0x78a5636f, 0x84c87814, 0x8cc70208, 0x90befffa, 0xa4506ceb, 0xbef9a3f7, 0xc67178f2]

/-- Rotate a word to the right by `n` bits, for `n` from 1 to 31. -/
@[inline] def rotateRight (x : UInt32) (n : UInt32) : UInt32 := (x >>> n) ||| (x <<< (32 - n))

/-- One round, with its constant and its word. -/
@[inline] def State.round (s : State) (constant word : UInt32) : State :=
  let sum1 := rotateRight s.e 6 ^^^ rotateRight s.e 11 ^^^ rotateRight s.e 25
  let choice := (s.e &&& s.f) ^^^ (~~~s.e &&& s.g)
  let t1 := s.h + sum1 + choice + constant + word
  let sum0 := rotateRight s.a 2 ^^^ rotateRight s.a 13 ^^^ rotateRight s.a 22
  let majority := (s.a &&& s.b) ^^^ (s.a &&& s.c) ^^^ (s.b &&& s.c)
  ⟨t1 + sum0 + majority, s.a, s.b, s.c, s.d + t1, s.e, s.f, s.g⟩

/-- Add two states word by word. -/
def State.add (s t : State) : State :=
  ⟨s.a + t.a, s.b + t.b, s.c + t.c, s.d + t.d, s.e + t.e, s.f + t.f, s.g + t.g, s.h + t.h⟩

/-- The words of a byte string, four bytes each, most significant first. -/
def words (done : Array UInt32) : Bytes → Array UInt32
  | a :: b :: c :: d :: rest =>
    words (done.push ((a.toUInt32 <<< 24) ||| (b.toUInt32 <<< 16) ||| (c.toUInt32 <<< 8) |||
      d.toUInt32)) rest
  | _ => done

/-- Add `count` words to a schedule, each made of four earlier ones. -/
def extend : Nat → Array UInt32 → Array UInt32
  | 0, w => w
  | count + 1, w =>
    let back (n : Nat) : UInt32 := w.getD (w.size - n) 0
    let x := back 15
    let y := back 2
    let s0 := rotateRight x 7 ^^^ rotateRight x 18 ^^^ (x >>> 3)
    let s1 := rotateRight y 17 ^^^ rotateRight y 19 ^^^ (y >>> 10)
    extend count (w.push (back 16 + s0 + back 7 + s1))

/-- The 64 words of a block. -/
def schedule (block : Bytes) : Array UInt32 := extend 48 (words (Array.mkEmpty 64) block)

/-- Run the rounds from number `i` on, `count` of them. -/
def rounds (w : Array UInt32) : (count i : Nat) → State → State
  | 0, _, s => s
  | count + 1, i, s => rounds w count (i + 1) (s.round (roundConstants.getD i 0) (w.getD i 0))

/-- Mix one block into the state. -/
def compress (s : State) (block : Bytes) : State := s.add (rounds (schedule block) 64 0 s)

/-- The bytes after a message of `length` bytes: a one bit, zeros up to the last eight bytes of a
block, and the length in bits. -/
def padding (length : Nat) : Bytes :=
  0x80 :: (List.replicate ((119 - length % 64) % 64) 0 ++ (Bytes.ofNat 8 (8 * length)).reverse)

/-- The four bytes of a word, most significant first. -/
def wordBytes (w : UInt32) : Bytes := (Bytes.ofNat 4 w.toNat).reverse

/-- The eight words of a state in 32 bytes. -/
def State.toDigest (s : State) : Digest :=
  ⟨[s.a, s.b, s.c, s.d, s.e, s.f, s.g, s.h].flatMap wordBytes, by simp [wordBytes]⟩

/-- The SHA-256 hash of a byte string. -/
def hash (message : Bytes) : Digest :=
  ((Bytes.pieces 64 (message ++ padding message.length)).foldl compress .initial).toDigest

/-- The hash of two digests, one after the other. -/
def pair (left right : Digest) : Digest := hash (left.toList ++ right.toList)

end Beacon.Sha256
