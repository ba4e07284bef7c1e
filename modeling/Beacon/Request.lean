import Beacon.Chain.BeaconState
import Beacon.Chain.BlobSidecar
import Beacon.Chain.Report
import Beacon.Reply

/-!
# Requests

The catalog of what a node can be asked: where each request is sent, with which body, and how its
answer is read from a reply. Blocks and states are named by texts such as `head`, `finalized`, a
slot, or a root.
-/

namespace Beacon

/-- What a node can be asked. -/
inductive Request where
  | genesis
  | nodeVersion
  | blockHeader (block : String)
  | blockRoot (block : String)
  | stateRoot (state : String)
  | finalityCheckpoints (state : String)
  | state (state : String)
  /-- The blobs of a block: those with the given places, or all. -/
  | blobSidecars (block : String) (indices : List UInt64)
  | validatorLiveness (epoch : UInt64) (indices : List UInt64)
deriving DecidableEq, Repr

namespace Request

/-- The type of the answers. -/
abbrev Answer : Request → Type
  | .genesis => Genesis
  | .nodeVersion => NodeVersion
  | .blockHeader _ => HeaderReport
  | .blockRoot _ => Digest
  | .stateRoot _ => Digest
  | .finalityCheckpoints _ => FinalityCheckpoints
  | .state _ => BeaconState
  | .blobSidecars _ _ => VersionedSidecars
  | .validatorLiveness _ _ => List ValidatorLiveness

instance : (request : Request) → BEq request.Answer
  | .genesis => inferInstanceAs (BEq Genesis)
  | .nodeVersion => inferInstanceAs (BEq NodeVersion)
  | .blockHeader _ => inferInstanceAs (BEq HeaderReport)
  | .blockRoot _ => inferInstanceAs (BEq Digest)
  | .stateRoot _ => inferInstanceAs (BEq Digest)
  | .finalityCheckpoints _ => inferInstanceAs (BEq FinalityCheckpoints)
  | .state _ => inferInstanceAs (BEq BeaconState)
  | .blobSidecars _ _ => inferInstanceAs (BEq VersionedSidecars)
  | .validatorLiveness _ _ => inferInstanceAs (BEq (List ValidatorLiveness))

instance : (request : Request) → EquivBEq request.Answer
  | .genesis => inferInstanceAs (EquivBEq Genesis)
  | .nodeVersion => inferInstanceAs (EquivBEq NodeVersion)
  | .blockHeader _ => inferInstanceAs (EquivBEq HeaderReport)
  | .blockRoot _ => inferInstanceAs (EquivBEq Digest)
  | .stateRoot _ => inferInstanceAs (EquivBEq Digest)
  | .finalityCheckpoints _ => inferInstanceAs (EquivBEq FinalityCheckpoints)
  | .state _ => inferInstanceAs (EquivBEq BeaconState)
  | .blobSidecars _ _ => inferInstanceAs (EquivBEq VersionedSidecars)
  | .validatorLiveness _ _ => inferInstanceAs (EquivBEq (List ValidatorLiveness))

/-- What a node has to be trusted with. -/
def capability : Request → Capability
  | .genesis => .genesis
  | .nodeVersion => .nodeVersion
  | .blockHeader _ => .blockHeader
  | .blockRoot _ => .blockRoot
  | .stateRoot _ => .stateRoot
  | .finalityCheckpoints _ => .finalityCheckpoints
  | .state _ => .state
  | .blobSidecars _ _ => .blobSidecars
  | .validatorLiveness _ _ => .validatorLiveness

/-- The name of the operation. -/
def operation (request : Request) : String := request.capability.name

/-- The query that asks for blobs with the given places. -/
def indexQuery (indices : List UInt64) : String :=
  if indices.isEmpty then ""
  else "?" ++ "&".intercalate (indices.map fun index => "indices=" ++ Numeral.write index)

/-- The path, with the query. -/
def path : Request → String
  | .genesis => "/eth/v1/beacon/genesis"
  | .nodeVersion => "/eth/v1/node/version"
  | .blockHeader id => "/eth/v1/beacon/headers/" ++ id
  | .blockRoot id => "/eth/v1/beacon/blocks/" ++ id ++ "/root"
  | .stateRoot id => "/eth/v1/beacon/states/" ++ id ++ "/root"
  | .finalityCheckpoints id => "/eth/v1/beacon/states/" ++ id ++ "/finality_checkpoints"
  | .state id => "/eth/v2/debug/beacon/states/" ++ id
  | .blobSidecars id indices => "/eth/v1/beacon/blob_sidecars/" ++ id ++ indexQuery indices
  | .validatorLiveness epoch _ => "/eth/v1/validator/liveness/" ++ Numeral.write epoch

/-- The body. A request with a body is sent with the method POST, one without with GET. -/
def body? : Request → Option Bytes
  | .validatorLiveness _ indices => some (Json.Codec.quotedList.encode indices)
  | _ => none

/-- Whether the fork of the answer is needed. -/
def versioning : Request → Versioning
  | .state _ => .required
  | .blobSidecars _ _ => .required
  | _ => .ignored

/-- The value under the member `data` of a JSON payload. -/
def readData {α : Type} (structureName : String) (codec : Json.Codec α) (payload : Bytes) :
    Except DataError α :=
  match codec.data.decode payload with
  | .ok value => .ok value
  | .error e => .error (.unreadable structureName e.message)

/-- An answer that comes as JSON alone. -/
def readJson {α : Type} (structureName : String) (codec : Json.Codec α) (reply : Reply) :
    Except DataError α :=
  match reply.encoding? with
  | some .ssz =>
    .error (.unreadable structureName "SSZ encoding is not supported for this response")
  | _ => readData structureName codec reply.payload

/-- The fork of a reply, for a structure that needs it. -/
def requireFork (structureName : String) (reply : Reply) : Except DataError Fork :=
  match reply.fork? with
  | some fork => .ok fork
  | none => .error (.missingFork structureName)

/-- A state in either encoding. -/
def readState (reply : Reply) : Except DataError BeaconState := do
  let fork ← requireFork "BeaconState" reply
  match reply.encoding? with
  | some .ssz => BeaconState.ofSsz fork reply.payload
  | _ => BeaconState.ofJson fork (← readData "BeaconState" (.free 1) reply.payload)

/-- Sidecars in either encoding. -/
def readSidecars (reply : Reply) : Except DataError VersionedSidecars := do
  let fork ← requireFork "BlobSidecars" reply
  if BlobSidecar.isSupported fork then
    let sidecars ← match reply.encoding? with
      | some .ssz => BlobSidecar.listOfSsz reply.payload
      | _ => readData "BlobSidecars" (.list BlobSidecar.codec) reply.payload
    VersionedSidecars.ofSidecars fork sidecars
  else .error (.unsupportedFork "BlobSidecars" fork)

/-- The answer in a reply. -/
def decode : (request : Request) → Reply → Except DataError request.Answer
  | .genesis => readJson "Genesis" Genesis.codec
  | .nodeVersion => readJson "NodeVersion" NodeVersion.codec
  | .blockHeader _ => readJson "BlockHeaderResponse" HeaderReport.codec
  | .blockRoot _ => readJson "BlockRoot" rootCodec
  | .stateRoot _ => readJson "StateRoot" rootCodec
  | .finalityCheckpoints _ => readJson "FinalityCheckpoints" FinalityCheckpoints.codec
  | .state _ => readState
  | .blobSidecars _ _ => readSidecars
  | .validatorLiveness _ _ => readJson "ValidatorLiveness" (.list ValidatorLiveness.codec)

end Request

end Beacon
