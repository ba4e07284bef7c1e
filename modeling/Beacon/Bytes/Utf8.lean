import Beacon.Bytes.Basic

/-!
# Text as bytes

`Utf8.encode` and `Utf8.decode?` pass between text and its UTF-8 bytes. `Utf8.decodeLossy` reads
any byte string: each longest start of a character that the next byte does not continue, and each
byte that starts none, becomes one replacement character.
-/

namespace Beacon.Utf8

/-- The UTF-8 bytes of a text. -/
def encode (text : String) : Bytes := text.toUTF8.data.toList

/-- The text whose UTF-8 bytes are given, if they are well formed. -/
def decode? (bytes : Bytes) : Option String := String.fromUTF8? ⟨bytes.toArray⟩

/-- What the first byte of a character announces: the number of bytes that follow it, and the
range of the first of these. -/
def lead? (b : UInt8) : Option (Nat × UInt8 × UInt8) :=
  if b < 0x80 then some (0, 0x80, 0xBF)
  else if b < 0xC2 then none
  else if b < 0xE0 then some (1, 0x80, 0xBF)
  else if b = 0xE0 then some (2, 0xA0, 0xBF)
  else if b = 0xED then some (2, 0x80, 0x9F)
  else if b < 0xF0 then some (2, 0x80, 0xBF)
  else if b = 0xF0 then some (3, 0x90, 0xBF)
  else if b < 0xF4 then some (3, 0x80, 0xBF)
  else if b = 0xF4 then some (3, 0x80, 0x8F)
  else none

/-- The bits of a first byte that belong to the character, `following` bytes being announced. -/
def leadBits (b : UInt8) (following : Nat) : Nat :=
  match following with
  | 0 => b.toNat
  | 1 => b.toNat % 32
  | 2 => b.toNat % 16
  | _ => b.toNat % 8

/-- A character part way through: the bits read, the number of bytes missing, and the range of the
next one. -/
structure Partial where
  bits : Nat
  missing : Nat
  least : UInt8
  greatest : UInt8

/-- The character that stands for bytes that are none. -/
def replacement : Char := '\uFFFD'

/-- Start a character at a byte, the characters before it being `done`, last one first. -/
def startAt (b : UInt8) (done : List Char) : List Char × Option Partial :=
  match lead? b with
  | none => (replacement :: done, none)
  | some (0, _, _) => (Char.ofNat b.toNat :: done, none)
  | some (missing, least, greatest) => (done, some ⟨leadBits b missing, missing, least, greatest⟩)

/-- Read one byte. -/
def step : List Char × Option Partial → UInt8 → List Char × Option Partial
  | (done, none), b => startAt b done
  | (done, some p), b =>
    if p.least ≤ b ∧ b ≤ p.greatest then
      let bits := p.bits * 64 + b.toNat % 64
      if p.missing = 1 then (Char.ofNat bits :: done, none)
      else (done, some ⟨bits, p.missing - 1, 0x80, 0xBF⟩)
    else
      startAt b (replacement :: done)

/-- The text of a byte string, with replacement characters where it is not well formed. -/
def decodeLossy (bytes : Bytes) : String :=
  match bytes.foldl step ([], none) with
  | (done, none) => String.ofList done.reverse
  | (done, some _) => String.ofList (replacement :: done).reverse

end Beacon.Utf8
