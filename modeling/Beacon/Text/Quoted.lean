import Beacon.Text.Unprintable

/-!
# Quoted text

A text between quotes as error messages show it: quotes and backslashes are escaped, the usual
control characters have short escapes, and every other character that is unprintable or extends
the one before it is written by its code point.
-/

namespace Beacon.Text

/-- A code point escape. -/
def codePointEscape (c : Char) : List Char :=
  ['\\', 'u', '\x7b'] ++ Nat.toDigits 16 c.toNat ++ ['\x7d']

/-- One character between quotes. -/
def quotedChar (c : Char) : List Char :=
  if c = '"' ∨ c = '\\' then ['\\', c]
  else if c = '\n' then ['\\', 'n']
  else if c = '\r' then ['\\', 'r']
  else if c = '\t' then ['\\', 't']
  else if c = '\x00' then ['\\', '0']
  else if isExtender c || isUnprintable c then codePointEscape c
  else [c]

/-- A text between quotes. -/
def quoted (text : String) : String :=
  String.ofList ('"' :: (text.toList.flatMap quotedChar ++ ['"']))

end Beacon.Text
