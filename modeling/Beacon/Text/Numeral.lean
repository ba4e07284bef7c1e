/-!
# Decimal numerals

A 64-bit number is read from an optional plus sign and at least one ASCII digit. Reading stops at
the first character that is no digit or at the first digit that makes the number too large,
whichever comes first.
-/

namespace Beacon.Numeral

/-- Why a text is no 64-bit number. -/
inductive Error where
  | empty
  | badDigit
  /-- The number needs more than 64 bits. -/
  | tooLarge
deriving DecidableEq, Repr

/-- The text of an error. -/
def Error.message : Error → String
  | .empty => "cannot parse integer from empty string"
  | .badDigit => "invalid digit found in string"
  | .tooLarge => "number too large to fit in target type"

/-- The value of an ASCII digit. -/
def digit? (c : Char) : Option Nat :=
  if '0' ≤ c ∧ c ≤ '9' then some (c.toNat - 48) else none

/-- Read digits after a number of 64 bits. -/
def readDigits (value : UInt64) : List Char → Except Error UInt64
  | [] => .ok value
  | c :: rest =>
    match digit? c with
    | none => .error .badDigit
    | some d =>
      if value.toNat * 10 + d < UInt64.size then
        readDigits (value * 10 + d.toUInt64) rest
      else
        .error .tooLarge

/-- The 64-bit number written by a list of characters. -/
def readChars : List Char → Except Error UInt64
  | [] => .error .empty
  | ['+'] => .error .badDigit
  | '+' :: digits => readDigits 0 digits
  | digits => readDigits 0 digits

/-- The 64-bit number written by a text. -/
def read (text : String) : Except Error UInt64 := readChars text.toList

/-- The decimal digits of a number, without leading zeros. -/
def write (n : UInt64) : String := String.ofList (Nat.toDigits 10 n.toNat)

end Beacon.Numeral
