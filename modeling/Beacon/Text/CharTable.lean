/-!
# Tables of characters

A set of characters is given by the ascending code points at which membership changes, and a
property of characters by the ascending code points from which on it has another value.
-/

namespace Beacon.Text

/-- A set of characters. -/
structure CharSet where
  /-- The code points at which membership changes; there is no member below the first one. -/
  edges : Array Nat

/-- Whether a character is in a set: an odd number of edges is at or below its code point. -/
def CharSet.contains (set : CharSet) (c : Char) : Bool :=
  set.edges.foldl (fun inside edge => if edge ≤ c.toNat then !inside else inside) false

/-- A property of characters. -/
structure CharMap (α : Type) where
  /-- The value below the first row. -/
  initial : α
  /-- The code points at which the value changes, each with the value from there on. -/
  rows : Array (Nat × α)

/-- The value of a property: that of the last row at or below the code point. -/
def CharMap.value {α : Type} (map : CharMap α) (c : Char) : α :=
  map.rows.foldl (fun value row => if row.1 ≤ c.toNat then row.2 else value) map.initial

end Beacon.Text
