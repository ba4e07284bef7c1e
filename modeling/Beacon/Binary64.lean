/-!
# Numbers of binary64

The numbers of 64 bits with a point, without their sign: a mantissa of at most 53 bits times a power
of two. A quotient is rounded to the nearest of them, and to the one with the even mantissa if two
are nearest. `Binary64.shortest` gives the fewest decimal digits that only one of these numbers is
nearest to.
-/

namespace Beacon

/-- The number `mantissa * 2 ^ exponent`. Unless the exponent is the least one, the mantissa has all
of its 53 bits. -/
structure Binary64 where
  mantissa : Nat
  exponent : Int
deriving DecidableEq, Repr

namespace Binary64

/-- Two to the number of bits of a mantissa. -/
def mantissaBound : Nat := 9007199254740992

/-- The place of the last digit of the smallest numbers. -/
def leastExponent : Int := -1074

/-- The place of the last digit of the greatest numbers. -/
def greatestExponent : Int := 971

/-- Nothing. -/
def zero : Binary64 := ⟨0, leastExponent⟩

/-- A quotient as an integer, a half going to the even one. -/
def divideToEven (n d : Nat) : Nat :=
  if 2 * (n % d) < d ∨ (2 * (n % d) = d ∧ n / d % 2 = 0) then n / d else n / d + 1

/-- A quotient in steps of two to the exponent given. -/
def inSteps (n d : Nat) (exponent : Int) : Nat × Nat :=
  (n * Nat.pow 2 (-exponent).toNat, d * Nat.pow 2 exponent.toNat)

/-- The exponent at which the quotient has all bits of a mantissa, but not below the least one. -/
def exponentOf (n d : Nat) : Int :=
  let guess : Int := (Nat.log2 n : Int) - (Nat.log2 d : Int) - 52
  let (n, d) := inSteps n d guess
  max leastExponent (if 2 * n < mantissaBound * d then guess - 1 else guess)

/-- The number nearest to a quotient; nothing if it is too great. -/
def round? (n d : Nat) : Option Binary64 :=
  if n = 0 then some zero
  else
    let exponent := exponentOf n d
    let (n, d) := inSteps n d exponent
    let mantissa := divideToEven n d
    let rounded : Binary64 :=
      if mantissa = mantissaBound then ⟨mantissa / 2, exponent + 1⟩ else ⟨mantissa, exponent⟩
    if greatestExponent < rounded.exponent then none else some rounded

/-- The product of two numbers; nothing if it is too great. -/
def mul? (a b : Binary64) : Option Binary64 :=
  let exponent := a.exponent + b.exponent
  round? (a.mantissa * b.mantissa * Nat.pow 2 exponent.toNat) (Nat.pow 2 (-exponent).toNat)

/-- The quotient of two numbers; nothing if it is too great. -/
def div? (a b : Binary64) : Option Binary64 :=
  let exponent := a.exponent - b.exponent
  round? (a.mantissa * Nat.pow 2 exponent.toNat) (b.mantissa * Nat.pow 2 (-exponent).toNat)

/-! ## Decimal digits -/

/-- A number and the ends of the interval that is rounded to it, with a common denominator. -/
structure Interval where
  low : Nat
  value : Nat
  high : Nat
  unit : Nat
  /-- Whether the ends are rounded to the number. -/
  closed : Bool

/-- The interval of a number in units of ten to the exponent given. -/
def interval (x : Binary64) (exponent : Int) : Interval :=
  let up := Nat.pow 2 (x.exponent - 2).toNat * Nat.pow 10 (-exponent).toNat
  let lowest := x.mantissa * 2 = mantissaBound ∧ x.exponent ≠ leastExponent
  { low := (4 * x.mantissa - if lowest then 1 else 2) * up
    value := 4 * x.mantissa * up
    high := (4 * x.mantissa + 2) * up
    unit := Nat.pow 2 (2 - x.exponent).toNat * Nat.pow 10 exponent.toNat
    closed := x.mantissa % 2 = 0 }

/-- Whether an interval holds a number of units. -/
def Interval.holds (i : Interval) (n : Nat) : Bool :=
  if i.closed then i.low ≤ n * i.unit && n * i.unit ≤ i.high
  else i.low < n * i.unit && n * i.unit < i.high

/-- The number of units in an interval that is nearest to its number. -/
def Interval.nearest? (i : Interval) : Option Nat :=
  let below := i.value / i.unit
  let nearest := divideToEven i.value i.unit
  if 0 < nearest ∧ i.holds nearest then some nearest
  else if 0 < below ∧ i.holds below then some below
  else if i.holds (below + 1) then some (below + 1)
  else none

/-- Digits that only this number is nearest to, and the place of the last of them: the highest of
the places from `exponent` down, of which at most `count` are tried. -/
def digitsFrom (x : Binary64) (exponent : Int) : (count : Nat) → Nat × Int
  | 0 => (0, exponent)
  | count + 1 =>
    match (x.interval exponent).nearest? with
    | some digits => (digits, exponent)
    | none => digitsFrom x (exponent - 1) count

/-- The fewest digits that only this number is nearest to, and the place of the last of them. -/
def shortest (x : Binary64) : Nat × Int := digitsFrom x 309 634

end Binary64

end Beacon
