import Beacon.Json.Record
import Beacon.Merkle.Root
import Beacon.Ssz.Cursor

/-!
# Checkpoints

A checkpoint is an epoch and the root of the block that starts it. Its serialized form is the epoch
and the root, one after the other, and its tree has the same two leaves.
-/

namespace Beacon

/-- An epoch and the root of its first block. -/
structure Checkpoint where
  epoch : UInt64
  root : Digest
deriving DecidableEq

namespace Checkpoint

/-- The length of the serialized form. -/
def size : Nat := 40

/-- The serialized form. -/
def toSsz (c : Checkpoint) : Bytes := (ByteVector.ofUInt64 c.epoch).toList ++ c.root.toList

/-- Read the serialized form. -/
def ofSsz (bytes : Bytes) : Except DataError Checkpoint := do
  Ssz.checkLength "Checkpoint" bytes size
  let (cursor, epoch) ← Ssz.part "Checkpoint" (Ssz.cutUInt64 bytes 0)
  let (_, root) ← Ssz.part "Checkpoint" (Ssz.cut 32 bytes cursor)
  return { epoch, root }

/-- The root of the tree. -/
def treeRoot (join : Digest → Digest → Digest) (c : Checkpoint) : Digest :=
  Merkle.root join [Merkle.leaf c.epoch, c.root]

/-- The JSON form. -/
def codec : Json.Codec Checkpoint :=
  (Json.Codec.record "Checkpoint" [
    { name := "epoch", Value := UInt64, codec := .quoted },
    { name := "root", Value := Digest, codec := .hex 32 }]).iso
    (fun (epoch, root, ()) => { epoch, root })
    (fun c => (c.epoch, c.root, ()))

end Checkpoint

end Beacon
