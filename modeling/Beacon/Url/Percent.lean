import Beacon.Bytes.Utf8

/-!
# Percent encoding

Characters that a part of a URL may not hold are written as the octets of their UTF-8 form, each as
a percent sign and two digits. Which ASCII characters these are depends on the part; a control
character and a character outside ASCII always is one.
-/

namespace Beacon.Url

/-- The ASCII characters, apart from control characters, that a fragment may not hold. -/
def fragmentSet : List Char := [' ', '"', '<', '>', '\x60']

/-- The ASCII characters, apart from control characters, that a path may not hold. -/
def pathSet : List Char := fragmentSet ++ ['#', '?', '\x7b', '\x7d']

/-- The ASCII characters, apart from control characters, that a query may not hold. -/
def querySet : List Char := [' ', '"', '#', '<', '>', '\'']

/-- The ASCII characters, apart from control characters, that a user name or password may not
hold. -/
def userSet : List Char := pathSet ++ ['/', ':', ';', '=', '@', '[', '\\', ']', '^', '|']

/-- The uppercase hexadecimal digit of a number below 16. -/
def upperDigit (n : Nat) : Char := if n < 10 then Char.ofNat (48 + n) else Char.ofNat (55 + n)

/-- An octet as a percent sign and two digits. -/
def percentOctet (b : UInt8) : List Char :=
  ['%', upperDigit (b.toNat / 16), upperDigit (b.toNat % 16)]

/-- A character in a part that may not hold the characters of a set. -/
def percentChar (set : List Char) (c : Char) : List Char :=
  if c.toNat < 0x20 ∨ 0x7F ≤ c.toNat ∨ c ∈ set then
    (String.utf8EncodeChar c).flatMap percentOctet
  else [c]

/-- Text in a part that may not hold the characters of a set. -/
def percentEncode (set : List Char) (text : List Char) : List Char := text.flatMap (percentChar set)

/-- The value of a hexadecimal digit. -/
def hexValue? (b : UInt8) : Option UInt8 :=
  if 0x30 ≤ b ∧ b ≤ 0x39 then some (b - 0x30)
  else if 0x61 ≤ b ∧ b ≤ 0x66 then some (b - 87)
  else if 0x41 ≤ b ∧ b ≤ 0x46 then some (b - 55)
  else none

/-- The octets of a text, with percent signs and their digits replaced by what they stand for. -/
def percentDecode : Bytes → Bytes
  | 0x25 :: a :: b :: rest =>
    match hexValue? a, hexValue? b with
    | some high, some low => (high * 16 + low) :: percentDecode rest
    | _, _ => 0x25 :: percentDecode (a :: b :: rest)
  | b :: rest => b :: percentDecode rest
  | [] => []

end Beacon.Url
