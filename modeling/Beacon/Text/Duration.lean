/-!
# Durations

A duration is a number of nanoseconds. Its text uses the largest of the units `s`, `ms`, `µs` and
`ns` that is not above it, with as many decimals as the value needs.
-/

namespace Beacon

/-- A length of time. -/
structure Duration where
  nanoseconds : Nat
deriving DecidableEq, Repr

namespace Duration

/-- A number of whole seconds. -/
def ofSeconds (seconds : Nat) : Duration := ⟨seconds * 1000000000⟩

/-- The whole seconds in a duration. -/
def seconds (d : Duration) : Nat := d.nanoseconds / 1000000000

/-- The least number of milliseconds that is not shorter. -/
def milliseconds (d : Duration) : Nat := (d.nanoseconds + 999999) / 1000000

/-- The decimals of `n / 10 ^ places`, without trailing zeros. -/
def decimals (places n : Nat) : List Char :=
  let digits := Nat.toDigits 10 n
  let padded := List.replicate (places - digits.length) '0' ++ digits
  (padded.reverse.dropWhile (· = '0')).reverse

/-- A number of nanoseconds in a unit of `10 ^ places` nanoseconds. -/
def inUnit (places : Nat) (symbol : String) (n : Nat) : String :=
  let whole := toString (n / Nat.pow 10 places)
  match decimals places (n % Nat.pow 10 places) with
  | [] => whole ++ symbol
  | digits => whole ++ "." ++ String.ofList digits ++ symbol

/-- The text of a duration. -/
def text (d : Duration) : String :=
  let n := d.nanoseconds
  if 1000000000 ≤ n then inUnit 9 "s" n
  else if 1000000 ≤ n then inUnit 6 "ms" n
  else if 1000 ≤ n then inUnit 3 "µs" n
  else inUnit 0 "ns" n

end Duration

end Beacon
