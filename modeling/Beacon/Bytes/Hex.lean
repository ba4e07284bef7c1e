import Beacon.Bytes.Basic

/-!
# Hexadecimal text

`Hex.encode` writes a byte string as `0x` and two lowercase digits an octet. `Hex.decode?` reads
digits of either case, in pairs, after at most one `0x`.
-/

namespace Beacon.Hex

/-- The lowercase hexadecimal digit of a number below 16. -/
def digit (n : Nat) : Char :=
  if n < 10 then Char.ofNat (48 + n) else Char.ofNat (87 + n)

/-- The value of a hexadecimal digit of either case. -/
def value? (c : Char) : Option Nat :=
  if '0' ≤ c ∧ c ≤ '9' then some (c.toNat - 48)
  else if 'a' ≤ c ∧ c ≤ 'f' then some (c.toNat - 87)
  else if 'A' ≤ c ∧ c ≤ 'F' then some (c.toNat - 55)
  else none

/-- The two digits of an octet. -/
def octet (b : UInt8) : List Char := [digit (b.toNat / 16), digit (b.toNat % 16)]

/-- The digits of a byte string. -/
def digits (bytes : Bytes) : List Char := bytes.flatMap octet

/-- The octet written by two digits. -/
def octet? (high low : Char) : Option UInt8 :=
  match value? high, value? low with
  | some h, some l => some (16 * h + l).toUInt8
  | _, _ => none

/-- Read pairs of digits, after the octets in `done`, last one first. -/
def readPairs (done : Bytes) : List Char → Option Bytes
  | [] => some done.reverse
  | [_] => none
  | high :: low :: rest =>
    match octet? high low with
    | some b => readPairs (b :: done) rest
    | none => none

/-- The byte string written by an even number of digits. -/
def ofDigits? (digits : List Char) : Option Bytes := readPairs [] digits

/-- Text without its first `0x`, if it starts with one. -/
def strip : List Char → List Char
  | '0' :: 'x' :: rest => rest
  | text => text

/-- A byte string as `0x` and its digits. -/
def encode (bytes : Bytes) : String := String.ofList ('0' :: 'x' :: digits bytes)

/-- The byte string written by a text, with or without `0x`. -/
def decode? (text : String) : Option Bytes := ofDigits? (strip text.toList)

/-- The byte string of exactly `n` octets written by a text. -/
def decodeVector? (n : Nat) (text : String) : Option (ByteVector n) :=
  (decode? text).bind (ByteVector.ofList? n)

end Beacon.Hex
