import Beacon.Json.Record
import Beacon.Merkle.Root
import Beacon.Ssz.Cursor

/-!
# Block headers

A block header names a block by its slot, its proposer and three roots. A signed header carries the
signature of the proposer.
-/

namespace Beacon

/-- A block without its body. -/
structure BlockHeader where
  slot : UInt64
  proposerIndex : UInt64
  parentRoot : Digest
  /-- The root of the state after the block. -/
  stateRoot : Digest
  bodyRoot : Digest
deriving DecidableEq

/-- A block header and the signature of its proposer. -/
structure SignedBlockHeader where
  message : BlockHeader
  signature : ByteVector 96
deriving DecidableEq

namespace BlockHeader

/-- The length of the serialized form. -/
def size : Nat := 112

/-- The serialized form. -/
def toSsz (h : BlockHeader) : Bytes :=
  (ByteVector.ofUInt64 h.slot).toList ++ (ByteVector.ofUInt64 h.proposerIndex).toList ++
    h.parentRoot.toList ++ h.stateRoot.toList ++ h.bodyRoot.toList

/-- Read the serialized form. -/
def ofSsz (bytes : Bytes) : Except DataError BlockHeader := do
  Ssz.checkLength "BeaconBlockHeader" bytes size
  let (cursor, slot) ← Ssz.part "BeaconBlockHeader" (Ssz.cutUInt64 bytes 0)
  let (cursor, proposerIndex) ← Ssz.part "BeaconBlockHeader" (Ssz.cutUInt64 bytes cursor)
  let (cursor, parentRoot) ← Ssz.part "BeaconBlockHeader" (Ssz.cut 32 bytes cursor)
  let (cursor, stateRoot) ← Ssz.part "BeaconBlockHeader" (Ssz.cut 32 bytes cursor)
  let (_, bodyRoot) ← Ssz.part "BeaconBlockHeader" (Ssz.cut 32 bytes cursor)
  return { slot, proposerIndex, parentRoot, stateRoot, bodyRoot }

/-- The root of the tree. -/
def treeRoot (join : Digest → Digest → Digest) (h : BlockHeader) : Digest :=
  Merkle.root join
    [Merkle.leaf h.slot, Merkle.leaf h.proposerIndex, h.parentRoot, h.stateRoot, h.bodyRoot]

/-- The JSON form. -/
def codec : Json.Codec BlockHeader :=
  (Json.Codec.record "BeaconBlockHeader" [
    { name := "slot", Value := UInt64, codec := .quoted },
    { name := "proposer_index", Value := UInt64, codec := .quoted },
    { name := "parent_root", Value := Digest, codec := .hex 32 },
    { name := "state_root", Value := Digest, codec := .hex 32 },
    { name := "body_root", Value := Digest, codec := .hex 32 }]).iso
    (fun (slot, proposerIndex, parentRoot, stateRoot, bodyRoot, ()) =>
      { slot, proposerIndex, parentRoot, stateRoot, bodyRoot })
    (fun h => (h.slot, h.proposerIndex, h.parentRoot, h.stateRoot, h.bodyRoot, ()))

end BlockHeader

namespace SignedBlockHeader

/-- The length of the serialized form. -/
def size : Nat := BlockHeader.size + 96

/-- The serialized form. -/
def toSsz (h : SignedBlockHeader) : Bytes := h.message.toSsz ++ h.signature.toList

/-- Read the serialized form. -/
def ofSsz (bytes : Bytes) : Except DataError SignedBlockHeader := do
  Ssz.checkLength "SignedBeaconBlockHeader" bytes size
  let (cursor, message) ← Ssz.part "SignedBeaconBlockHeader" (Ssz.cut BlockHeader.size bytes 0)
  let message ← BlockHeader.ofSsz message.toList
  let (_, signature) ← Ssz.part "SignedBeaconBlockHeader" (Ssz.cut 96 bytes cursor)
  return { message, signature }

/-- The root of the tree. -/
def treeRoot (join : Digest → Digest → Digest) (h : SignedBlockHeader) : Digest :=
  Merkle.root join [h.message.treeRoot join, Merkle.bytesRoot join h.signature.toList]

/-- The JSON form. -/
def codec : Json.Codec SignedBlockHeader :=
  (Json.Codec.record "SignedBeaconBlockHeader" [
    { name := "message", Value := BlockHeader, codec := BlockHeader.codec },
    { name := "signature", Value := ByteVector 96, codec := .hex 96 }]).iso
    (fun (message, signature, ()) => { message, signature })
    (fun h => (h.message, h.signature, ()))

end SignedBlockHeader

end Beacon
