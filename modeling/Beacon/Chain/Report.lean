import Beacon.Chain.BlockHeader
import Beacon.Chain.Checkpoint

/-!
# Reports

What a node tells about the chain and about itself, apart from the chain objects themselves.
-/

namespace Beacon

/-- The start of the chain. -/
structure Genesis where
  /-- Its time, in seconds since 1970. -/
  time : UInt64
  validatorsRoot : Digest
  forkVersion : ByteVector 4
deriving DecidableEq

/-- The JSON form. -/
def Genesis.codec : Json.Codec Genesis :=
  (Json.Codec.record "Genesis" [
    { name := "genesis_time", Value := UInt64, codec := .quoted },
    { name := "genesis_validators_root", Value := Digest, codec := .hex 32 },
    { name := "genesis_fork_version", Value := ByteVector 4, codec := .hex 4 }]).iso
    (fun (time, validatorsRoot, forkVersion, ()) => { time, validatorsRoot, forkVersion })
    (fun g => (g.time, g.validatorsRoot, g.forkVersion, ()))

/-- The JSON form of a root that is reported by itself. -/
def rootCodec : Json.Codec Digest :=
  (Json.Codec.record "RootResponse" [{ name := "root", Value := Digest, codec := .hex 32 }]).iso
    (fun row => row.1) (fun root => (root, ()))

/-- A block header, the root of its block, and whether the block is on the chain of the node. -/
structure HeaderReport where
  root : Digest
  canonical : Bool
  header : SignedBlockHeader
deriving DecidableEq

/-- The JSON form. -/
def HeaderReport.codec : Json.Codec HeaderReport :=
  (Json.Codec.record "BlockHeaderResponse" [
    { name := "root", Value := Digest, codec := .hex 32 },
    { name := "canonical", Value := Bool, codec := .bool },
    { name := "header", Value := SignedBlockHeader, codec := SignedBlockHeader.codec }]).iso
    (fun (root, canonical, header, ()) => { root, canonical, header })
    (fun r => (r.root, r.canonical, r.header, ()))

/-- The latest checkpoints of a state. -/
structure FinalityCheckpoints where
  previousJustified : Checkpoint
  currentJustified : Checkpoint
  finalized : Checkpoint
deriving DecidableEq

/-- The JSON form. -/
def FinalityCheckpoints.codec : Json.Codec FinalityCheckpoints :=
  (Json.Codec.record "FinalityCheckpoints" [
    { name := "previous_justified", Value := Checkpoint, codec := Checkpoint.codec },
    { name := "current_justified", Value := Checkpoint, codec := Checkpoint.codec },
    { name := "finalized", Value := Checkpoint, codec := Checkpoint.codec }]).iso
    (fun (previousJustified, currentJustified, finalized, ()) =>
      { previousJustified, currentJustified, finalized })
    (fun f => (f.previousJustified, f.currentJustified, f.finalized, ()))

/-- The name and version of the software of a node. -/
structure NodeVersion where
  version : String
deriving DecidableEq

/-- The JSON form. -/
def NodeVersion.codec : Json.Codec NodeVersion :=
  (Json.Codec.record "NodeVersion" [{ name := "version", Value := String, codec := .text }]).iso
    (fun row => ⟨row.1⟩) (fun v => (v.version, ()))

/-- Whether a validator was seen in an epoch. -/
structure ValidatorLiveness where
  index : UInt64
  isLive : Bool
deriving DecidableEq

/-- The JSON form. -/
def ValidatorLiveness.codec : Json.Codec ValidatorLiveness :=
  (Json.Codec.record "ValidatorLiveness" [
    { name := "index", Value := UInt64, codec := .quoted },
    { name := "is_live", Value := Bool, codec := .bool }]).iso
    (fun (index, isLive, ()) => { index, isLive })
    (fun l => (l.index, l.isLive, ()))

end Beacon
