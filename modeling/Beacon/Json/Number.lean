import Beacon.Binary64
import Beacon.Json.Token

/-!
# Numbers with a point

A numeral that is no integer of 64 bits stands for a number of binary64. Reading takes as many of
its digits as fit in 64 bits, rounds them, and multiplies or divides the result by a power of ten,
which is rounded too. A numeral that is too great for that stands for nothing. The text of a number
has the fewest digits that it can be read from; it is positional from ten to the minus fifth up to
ten to the sixteenth.
-/

namespace Beacon.Json.Number

/-- The digits that a numeral is read from. -/
structure Scientific where
  negative : Bool
  /-- The digits, as a number of 64 bits. -/
  significand : Nat
  /-- The place of the last of them. -/
  exponent : Int

/-- Put digits behind a number as long as it has 64 bits, and count them. -/
def takeDigits (n : Nat) : Bytes → Nat × Nat
  | [] => (n, 0)
  | b :: rest =>
    let next := n * 10 + (b.toNat - 48)
    if next < UInt64.size then
      let (n, count) := takeDigits next rest
      (n, count + 1)
    else (n, 0)

/-- The value of an exponent, sign and digits. -/
def exponentValue : Bytes → Int
  | 0x2D :: digits => -(Token.decimal digits : Int)
  | 0x2B :: digits => Token.decimal digits
  | digits => Token.decimal digits

/-- The digits that a numeral is read from. A digit of the integer that does not fit leaves its
place behind; a digit of the fraction that does not fit is left out. -/
def Scientific.ofNumeral (text : Bytes) : Scientific :=
  let unsigned := if text.head? = some 0x2D then text.drop 1 else text
  let whole := unsigned.takeWhile Token.isDigit
  let (significand, taken) := takeDigits 0 whole
  let rest := unsigned.drop whole.length
  let (fraction, rest) :=
    match rest with
    | 0x2E :: rest => (rest.takeWhile Token.isDigit, rest.dropWhile Token.isDigit)
    | rest => ([], rest)
  let (significand, places) := takeDigits significand fraction
  { negative := text.head? = some 0x2D
    significand
    exponent := (whole.length - taken : Nat) - (places : Int) + exponentValue (rest.drop 1) }

/-- The greatest power of ten in one step. -/
def greatestPower : Nat := 308

/-- A power of ten. -/
def tenTo? (n : Nat) : Option Binary64 := Binary64.round? (Nat.pow 10 n) 1

/-- A number times ten to an exponent, in at most `count` steps; nothing if it is too great. -/
def scale? (x : Binary64) (exponent : Int) : (count : Nat) → Option Binary64
  | 0 => some x
  | count + 1 =>
    if x.mantissa = 0 then some x
    else if exponent.natAbs ≤ greatestPower then
      tenTo? exponent.natAbs >>= if 0 ≤ exponent then x.mul? else x.div?
    else if 0 < exponent then none
    else
      match tenTo? greatestPower >>= x.div? with
      | some y => scale? y (exponent + greatestPower) count
      | none => none

/-- The number that digits stand for, without its sign; nothing if it is too great. Three steps down
leave nothing of 64 bits, so that four are enough. -/
def Scientific.value? (s : Scientific) : Option Binary64 := do
  scale? (← Binary64.round? s.significand 1) s.exponent 4

/-- Digits with a point behind the first `whole` of them. -/
def withPoint (digits : List Char) (whole : Nat) : List Char :=
  digits.take whole ++ '.' :: digits.drop whole

/-- The text of digits of which the last has the place `exponent`. -/
def write (digits : List Char) (exponent : Int) : List Char :=
  let top : Int := digits.length + exponent
  if 0 ≤ exponent ∧ top ≤ 16 then digits ++ List.replicate exponent.toNat '0' ++ ['.', '0']
  else if 0 < top ∧ top ≤ 16 then withPoint digits top.toNat
  else if -5 < top ∧ top ≤ 0 then '0' :: '.' :: (List.replicate (-top).toNat '0' ++ digits)
  else
    (if digits.length = 1 then digits else withPoint digits 1) ++
      'e' :: (if top ≤ 0 then '-' else '+') :: Nat.toDigits 10 (top - 1).natAbs

/-- The text of the number that a numeral stands for; nothing if it is too great. -/
def text? (numeral : Bytes) : Option String :=
  let read := Scientific.ofNumeral numeral
  read.value?.map fun x =>
    let digits :=
      if x.mantissa = 0 then ['0', '.', '0']
      else
        let (n, exponent) := x.shortest
        write (Nat.toDigits 10 n) exponent
    String.ofList (if read.negative then '-' :: digits else digits)

end Beacon.Json.Number
