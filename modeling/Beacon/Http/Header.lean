import Beacon.Bytes.Utf8
import Beacon.Text.Blank

/-!
# HTTP headers

A header has a name, in small letters, and a value, which is a byte string. `Headers` lists them in
order and may hold a name more than once. The headers of a request hold every name at most once:
`Headers.set` replaces what was there.
-/

namespace Beacon.Http

/-- Why a header is refused. -/
inductive HeaderError where
  /-- The name is no token. -/
  | badName
  /-- The value holds a control character. -/
  | badValue
deriving DecidableEq, Repr

/-- The text of an error. -/
def HeaderError.message : HeaderError → String
  | .badName => "invalid HTTP header name"
  | .badValue => "failed to parse header value"

/-- The characters of a token other than letters and digits. -/
def tokenMarks : List Char :=
  ['!', '#', '$', '%', '&', '\'', '*', '+', '-', '.', '^', '_', '\x60', '|', '~']

/-- A character of a token. -/
def isTokenChar (c : Char) : Bool := c.isAlphanum || tokenMarks.contains c

/-- The greatest number of characters in a name. -/
def longestName : Nat := 65535

/-- A header name in small letters, if the text is a token. -/
def parseName (text : String) : Except HeaderError String :=
  if text.toList ≠ [] ∧ text.toList.length ≤ longestName ∧ text.toList.all isTokenChar then
    .ok (Text.lowercase text)
  else .error .badName

/-- An octet of a value: no control character but the tab. -/
def isValueOctet (b : UInt8) : Bool := b = 9 || (32 ≤ b && b ≠ 127)

/-- A text as a header value. -/
def parseValue (text : String) : Except HeaderError Bytes :=
  if (Utf8.encode text).all isValueOctet then .ok (Utf8.encode text) else .error .badValue

/-- Headers in order. -/
abbrev Headers := List (String × Bytes)

namespace Headers

/-- The values of all headers with a name. -/
def values (headers : Headers) (name : String) : List Bytes :=
  (headers.filter fun header => header.1 = name).map Prod.snd

/-- The headers with one value for a name in place of all that it had. -/
def set (headers : Headers) (name : String) (value : Bytes) : Headers :=
  headers.filter (fun header => header.1 ≠ name) ++ [(name, value)]

/-- Whether a name has a value. -/
def has (headers : Headers) (name : String) : Bool := headers.any fun header => header.1 = name

/-- A name has just the value that was set last. -/
theorem values_set_self (headers : Headers) (name : String) (value : Bytes) :
    (headers.set name value).values name = [value] := by
  simp [values, set, List.filter_filter]

/-- Setting a value leaves all other names alone. -/
theorem values_set_of_ne (headers : Headers) {name other : String} (value : Bytes)
    (h : other ≠ name) : (headers.set name value).values other = headers.values other := by
  have h' : name ≠ other := fun e => h e.symm
  simp only [values, set, List.filter_append, List.filter_filter, List.map_append]
  have hk : (headers.filter fun a => decide (a.1 = other) && decide (a.1 ≠ name)) =
      headers.filter fun a => decide (a.1 = other) := by
    apply List.filter_congr
    intro a _
    by_cases ha : a.1 = other <;> simp [ha, h]
  rw [hk]
  simp [h']

end Headers

/-- The text of a value that holds only visible ASCII characters, spaces and tabs. -/
def valueText? (value : Bytes) : Option String :=
  if value.all fun b => b = 9 || (32 ≤ b && b < 127) then
    some (String.ofList (value.map fun b => Char.ofNat b.toNat))
  else none

end Beacon.Http
