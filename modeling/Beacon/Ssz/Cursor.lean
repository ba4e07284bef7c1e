import Beacon.Bytes.Basic
import Beacon.DataError

/-!
# Cutting bytes at a cursor

A cursor is a 64-bit position in a byte string. Cutting `n` octets at a cursor gives them together
with the cursor after them. A cut that ends beyond the last 64-bit position is an `overflow`, which
is told apart from a cut that only ends beyond the bytes.
-/

namespace Beacon.Ssz

/-- Why octets cannot be cut. -/
inductive CutError where
  | tooShort
  /-- The cut ends beyond the last 64-bit position. -/
  | overflow
deriving DecidableEq, Repr

/-- Cut `n` octets at a cursor. -/
def cut (n : Nat) (bytes : Bytes) (cursor : UInt64) : Except CutError (UInt64 × ByteVector n) :=
  if UInt64.size ≤ cursor.toNat + n then .error .overflow
  else if h : cursor.toNat + n ≤ bytes.length then
    .ok (cursor + n.toUInt64, ⟨(bytes.drop cursor.toNat).take n, by
      simp only [List.length_take, List.length_drop]; omega⟩)
  else .error .tooShort

/-- Cut a 64-bit number at a cursor. -/
def cutUInt64 (bytes : Bytes) (cursor : UInt64) : Except CutError (UInt64 × UInt64) :=
  match cut 8 bytes cursor with
  | .ok (cursor, octets) => .ok (cursor, octets.toUInt64)
  | .error e => .error e

/-- Cut `count` pieces of `n` octets each at a cursor. -/
def cutVector (n : Nat) (bytes : Bytes) (cursor : UInt64) :
    (count : Nat) → Except CutError (UInt64 × Vector (ByteVector n) count)
  | 0 => .ok (cursor, #v[])
  | count + 1 =>
    match cutVector n bytes cursor count with
    | .error e => .error e
    | .ok (cursor, pieces) =>
      match cut n bytes cursor with
      | .error e => .error e
      | .ok (cursor, piece) => .ok (cursor, pieces.push piece)

/-- The error about a structure whose octets cannot be cut. -/
def CutError.toDataError (structureName : String) (_ : CutError) : DataError :=
  .unreadable structureName "Not enough bytes to extract fixed bytes"

/-- A part of a structure. -/
def part {α : Type} (structureName : String) (result : Except CutError α) : Except DataError α :=
  result.mapError (CutError.toDataError structureName)

/-- What comes of a cut for a structure: a part of it or an error about it, and nothing at all where
the cut overflows. -/
def answer? {α : Type} (structureName : String) :
    Except CutError α → Option (Except DataError α)
  | .error .overflow => none
  | result => some (part structureName result)

/-- Refuse a byte string of another length than the structure has. -/
def checkLength (structureName : String) (bytes : Bytes) (expected : Nat) : Except DataError Unit :=
  if bytes.length = expected then .ok ()
  else .error (.wrongLength structureName expected bytes.length)

end Beacon.Ssz
