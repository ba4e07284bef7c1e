import Beacon.Fork

/-!
# Errors about chain data

What can be wrong with the bytes or the text of a chain object.
-/

namespace Beacon

/-- Why chain data is refused. -/
inductive DataError where
  | unreadable (structureName reason : String)
  | unwritable (structureName reason : String)
  | wrongLength (structureName : String) (expected actual : Nat)
  /-- A structure is shorter than its fixed part. -/
  | tooShort (structureName : String) (minimum actual : Nat)
  | unsupportedFork (structureName : String) (fork : Fork)
  | missingFork (structureName : String)
  /-- A text is not the hexadecimal form of a byte string of the right length. -/
  | badHex
deriving DecidableEq, Repr

/-- The text of an error. -/
def DataError.message : DataError → String
  | .unreadable name reason => s!"Failed to deserialize {name}: {reason}"
  | .unwritable name reason => s!"Failed to serialize {name}: {reason}"
  | .wrongLength name expected actual =>
    s!"Received data of invalid length for {name}. Expected {expected}, got {actual}."
  | .tooShort name minimum actual =>
    s!"Received too little data to deserialize {name}. Minimum {minimum}, got {actual}."
  | .unsupportedFork name fork => s!"Unsupported consensus version for {name}: {fork.tag}"
  | .missingFork name => s!"Missing consensus version for {name}"
  | .badHex => "Error while converting hexadecimal value to a fixed-size array"

end Beacon
