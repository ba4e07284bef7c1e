/-!
# Request ids

Every client numbers its calls from zero. The id of a call is its number in at least six hexadecimal
digits.
-/

namespace Beacon

/-- The id of the call with a number. -/
def requestId (number : Nat) : String :=
  let digits := Nat.toDigits 16 number
  String.ofList (List.replicate (6 - digits.length) '0' ++ digits)

/-- The first two ids. -/
example : requestId 0 = "000000" ∧ requestId 1 = "000001" := by decide

end Beacon
