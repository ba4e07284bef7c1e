/-!
# Blank characters

The characters with the Unicode property `White_Space`, and text without them at its ends.
-/

namespace Beacon.Text

/-- A character with the Unicode property `White_Space`. -/
def isBlank (c : Char) : Bool :=
  (9 ≤ c.toNat && c.toNat ≤ 13) || c.toNat == 0x20 || c.toNat == 0x85 || c.toNat == 0xA0 ||
    c.toNat == 0x1680 || (0x2000 ≤ c.toNat && c.toNat ≤ 0x200A) || c.toNat == 0x2028 ||
    c.toNat == 0x2029 || c.toNat == 0x202F || c.toNat == 0x205F || c.toNat == 0x3000

/-- A list of characters without the blanks at its ends. -/
def trimChars (text : List Char) : List Char :=
  (((text.dropWhile isBlank).reverse).dropWhile isBlank).reverse

/-- Text without the blanks at its ends. -/
def trim (text : String) : String := String.ofList (trimChars text.toList)

/-- Text with its ASCII capitals turned into small letters. -/
def lowercase (text : String) : String := String.ofList (text.toList.map Char.toLower)

theorem toLower_toLower (c : Char) : c.toLower.toLower = c.toLower := by
  unfold Char.toLower
  grind

theorem lowercase_lowercase (text : String) : lowercase (lowercase text) = lowercase text := by
  simp only [lowercase, String.toList_ofList, List.map_map, Function.comp_def, toLower_toLower]

end Beacon.Text
