/-!
# Punycode

Labels of any characters as ASCII, by the scheme of RFC 3492. The ASCII characters of a label come
first, then a hyphen if there are any, then digits for the other characters. These are inserted one
after the other, in the order of their code points and from left to right. Between two insertions a
counter passes every place of the label for every code point on the way, and the digits say how far
it has to go.
-/

namespace Beacon.Url.Punycode

/-- The value of a digit: letters before numerals. -/
def digit? (c : Char) : Option Nat :=
  if 'a' ≤ c ∧ c ≤ 'z' then some (c.toNat - 97)
  else if 'A' ≤ c ∧ c ≤ 'Z' then some (c.toNat - 65)
  else if '0' ≤ c ∧ c ≤ '9' then some (c.toNat - 22)
  else none

/-- The digit of a number below 36. -/
def digitChar (n : Nat) : Char := if n < 26 then Char.ofNat (97 + n) else Char.ofNat (22 + n)

/-- The least digit, in the place of weight `k`, that another digit follows. -/
def threshold (bias k : Nat) : Nat :=
  if k ≤ bias then 1 else if bias + 26 ≤ k then 26 else k - bias

theorem threshold_pos (bias k : Nat) : 1 ≤ threshold bias k := by grind [threshold]

/-- Divide by 35 until the number is at most 455, counting in steps of 36. -/
def reduce (delta k : Nat) : Nat × Nat :=
  if 455 < delta then reduce (delta / 35) (k + 36) else (delta, k)
termination_by delta

/-- The bias after an insertion, when `length` characters are there and the counter went `delta`
steps. -/
def adapt (delta length : Nat) (first : Bool) : Nat :=
  let delta := if first then delta / 700 else delta / 2
  let (delta, k) := reduce (delta + delta / length) 0
  k + 36 * delta / (delta + 38)

/-! ## Reading -/

/-- Read one number and add it to another one; numbers and weights have at most 32 bits. -/
def readNumber (bias : Nat) (number weight k : Nat) : List Char → Option (Nat × List Char)
  | [] => none
  | c :: rest =>
    match digit? c with
    | none => none
    | some d =>
      let number := number + d * weight
      let next := weight * (36 - threshold bias k)
      if UInt32.size ≤ number then none
      else if d < threshold bias k then some (number, rest)
      else if UInt32.size ≤ next then none
      else readNumber bias number next (k + 36) rest

/-- Insert characters as long as there are digits, at most `count` of them. -/
def insertAll (codePoint place bias : Nat) (label : List Char) : (count : Nat) → List Char →
    Option (List Char)
  | _, [] => some label
  | 0, _ => none
  | count + 1, digits =>
    match readNumber bias place 1 36 digits with
    | none => none
    | some (number, rest) =>
      let length := label.length + 1
      let bias := adapt (number - place) length (place = 0)
      let codePoint := codePoint + number / length
      let place := number % length
      if codePoint.isValidChar then
        insertAll codePoint (place + 1) bias
          (label.take place ++ Char.ofNat codePoint :: label.drop place) count rest
      else none

/-- The characters that a text stands for. -/
def decode? (text : List Char) : Option (List Char) :=
  let digits := (text.reverse.takeWhile (· ≠ '-')).reverse
  if digits.length + 1 < text.length then
    insertAll 128 0 72 (text.take (text.length - digits.length - 1)) digits.length digits
  else insertAll 128 0 72 [] text.length text

/-! ## Writing -/

/-- A number in digits, from the place of weight `k` on. -/
def writeNumber (bias k number : Nat) : List Char :=
  if number < threshold bias k then [digitChar number]
  else
    digitChar (threshold bias k + (number - threshold bias k) % (36 - threshold bias k)) ::
      writeNumber bias (k + 36) ((number - threshold bias k) / (36 - threshold bias k))
termination_by number
decreasing_by
  have := threshold_pos bias k
  have := Nat.div_le_self (number - threshold bias k) (36 - threshold bias k)
  omega

/-- Where the insertions stand. -/
structure Progress where
  /-- The digits so far, last one first. -/
  digits : List Char
  /-- How far the counter has gone since the last insertion. -/
  delta : Nat
  bias : Nat
  /-- How many characters are in the label. -/
  length : Nat

/-- Pass the place before a character when characters with a code point are inserted. -/
def Progress.pass (codePoint : Nat) (progress : Progress) (c : Char) : Progress :=
  if c.toNat < codePoint then { progress with delta := progress.delta + 1 }
  else if c.toNat = codePoint then {
    digits := (writeNumber progress.bias 36 progress.delta).reverse ++ progress.digits
    delta := 0
    bias := adapt progress.delta (progress.length + 1) progress.digits.isEmpty
    length := progress.length + 1 }
  else progress

/-- Insert the characters of a label that have the code points given, in ascending order, when the
counter stands at `codePoint`. -/
def writeAll (label : List Char) (codePoint : Nat) (progress : Progress) : List Nat → List Char
  | [] => progress.digits.reverse
  | next :: rest =>
    let progress :=
      { progress with delta := progress.delta + (next - codePoint) * (progress.length + 1) }
    let progress := label.foldl (Progress.pass next) progress
    writeAll label (next + 1) { progress with delta := progress.delta + 1 } rest

/-- The text that stands for characters. -/
def encode (label : List Char) : List Char :=
  let basic := label.filter (·.toNat < 128)
  let codePoints := ((label.map Char.toNat).filter (128 ≤ ·)).mergeSort.eraseDups
  basic ++ (if basic.isEmpty then [] else ['-']) ++
    writeAll label 128 ⟨[], 0, 72, basic.length⟩ codePoints

end Beacon.Url.Punycode
