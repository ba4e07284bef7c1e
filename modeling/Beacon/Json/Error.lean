import Beacon.Text.Quoted

/-!
# JSON reading errors

Why a JSON text is not the value that was asked for. A text that stops being JSON where it is read
is `malformed`; every other error says what was found and what was expected.
-/

namespace Beacon.Json

/-- What stands where something else was expected. -/
inductive Found where
  | null
  | boolean (value : Bool)
  /-- A number without fraction or exponent that fits in 64 bits, as written. -/
  | integer (text : String)
  /-- Any other number, in its shortest text. -/
  | decimal (text : String)
  | text (value : String)
  | sequence
  | map
deriving DecidableEq, Repr

/-- The words for what was found. -/
def Found.message : Found → String
  | .null => "null"
  | .boolean value => "boolean `" ++ (if value then "true" else "false") ++ "`"
  | .integer digits => "integer `" ++ digits ++ "`"
  | .decimal digits => "floating point `" ++ digits ++ "`"
  | .text value => "string " ++ Text.quoted value
  | .sequence => "sequence"
  | .map => "map"

/-- Why a JSON text is refused. -/
inductive Error where
  /-- The text is not JSON where it is read. -/
  | malformed
  | missing (member : String)
  | duplicate (member : String)
  | wrongKind (found : Found) (expected : String)
  | wrongCount (count : Nat) (expected : String)
  /-- A value of the right kind is refused, for the reason given. -/
  | rejected (reason : String)
deriving DecidableEq, Repr

/-- The text of an error. -/
def Error.message : Error → String
  | .malformed => "invalid JSON"
  | .missing member => "missing field `" ++ member ++ "`"
  | .duplicate member => "duplicate field `" ++ member ++ "`"
  | .wrongKind found expected => s!"invalid type: {found.message}, expected {expected}"
  | .wrongCount count expected => s!"invalid length {count}, expected {expected}"
  | .rejected reason => reason

end Beacon.Json
