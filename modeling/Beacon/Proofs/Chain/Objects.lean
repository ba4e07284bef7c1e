import Beacon.Proofs.Chain.RoundTrip
import Beacon.Proofs.Json.Fields
import Beacon.Request

/-!
# Fields of chain objects

Chain objects and what nodes report are read from JSON objects by their fields, whatever the order
of the members and whatever else the objects contain. `WireType.fields` lists the fields of each
type, and `WireType.isStructure_codec` says that the codec of the type puts its values together from
these. `readJson_eq` says the same of responses: only the value under `data` matters.
-/

namespace Beacon

open Json

namespace WireType

/-- The fields of the values of a type. -/
def fields : (type : WireType) → List (Json.Field type.Value)
  | .checkpoint => [
    { name := "epoch", Value := UInt64, codec := .quoted, get := Checkpoint.epoch },
    { name := "root", Value := Digest, codec := .hex 32, get := Checkpoint.root }]
  | .blockHeader => [
    { name := "slot", Value := UInt64, codec := .quoted, get := BlockHeader.slot },
    { name := "proposer_index", Value := UInt64, codec := .quoted,
      get := BlockHeader.proposerIndex },
    { name := "parent_root", Value := Digest, codec := .hex 32, get := BlockHeader.parentRoot },
    { name := "state_root", Value := Digest, codec := .hex 32, get := BlockHeader.stateRoot },
    { name := "body_root", Value := Digest, codec := .hex 32, get := BlockHeader.bodyRoot }]
  | .signedBlockHeader => [
    { name := "message", Value := BlockHeader, codec := BlockHeader.codec,
      get := SignedBlockHeader.message },
    { name := "signature", Value := ByteVector 96, codec := .hex 96,
      get := SignedBlockHeader.signature }]
  | .blobSidecar => [
    { name := "index", Value := UInt64, codec := .quoted, get := BlobSidecar.index },
    { name := "blob", Value := Blob, codec := Blob.codec, get := BlobSidecar.blob },
    { name := "kzg_commitment", Value := ByteVector 48, codec := .hex 48,
      get := BlobSidecar.kzgCommitment },
    { name := "kzg_proof", Value := ByteVector 48, codec := .hex 48,
      get := BlobSidecar.kzgProof },
    { name := "signed_block_header", Value := SignedBlockHeader, codec := SignedBlockHeader.codec,
      get := BlobSidecar.signedBlockHeader },
    { name := "kzg_commitment_inclusion_proof", Value := Vector Digest 17,
      codec := .hexVector 32 17, get := BlobSidecar.inclusionProof }]
  | .genesis => [
    { name := "genesis_time", Value := UInt64, codec := .quoted, get := Genesis.time },
    { name := "genesis_validators_root", Value := Digest, codec := .hex 32,
      get := Genesis.validatorsRoot },
    { name := "genesis_fork_version", Value := ByteVector 4, codec := .hex 4,
      get := Genesis.forkVersion }]
  | .root => [{ name := "root", Value := Digest, codec := .hex 32, get := id }]
  | .headerReport => [
    { name := "root", Value := Digest, codec := .hex 32, get := HeaderReport.root },
    { name := "canonical", Value := Bool, codec := .bool, get := HeaderReport.canonical },
    { name := "header", Value := SignedBlockHeader, codec := SignedBlockHeader.codec,
      get := HeaderReport.header }]
  | .finalityCheckpoints => [
    { name := "previous_justified", Value := Checkpoint, codec := Checkpoint.codec,
      get := FinalityCheckpoints.previousJustified },
    { name := "current_justified", Value := Checkpoint, codec := Checkpoint.codec,
      get := FinalityCheckpoints.currentJustified },
    { name := "finalized", Value := Checkpoint, codec := Checkpoint.codec,
      get := FinalityCheckpoints.finalized }]
  | .nodeVersion => [
    { name := "version", Value := String, codec := .text, get := NodeVersion.version }]
  | .validatorLiveness => [
    { name := "index", Value := UInt64, codec := .quoted, get := ValidatorLiveness.index },
    { name := "is_live", Value := Bool, codec := .bool, get := ValidatorLiveness.isLive }]

theorem isStructure_codec (type : WireType) : type.codec.IsStructure type.fields := by
  cases type <;>
    exact ⟨by decide, _, fun _ _ => Codec.iso_read_eq_ok_iff (fun _ => rfl) fun _ => rfl⟩

end WireType

/-! ### Responses -/

/-- Of a response in JSON, only the value under `data` is read, as if it were the whole text, errors
included. -/
def ReadsDataAlone {α : Type} (codec : Codec α) : Prop :=
  ∀ (structureName : String) (fork : Option Fork) {members : List (StringBody × Json.Node)}
    {node : Json.Node} {text alone : Bytes},
    (Json.Node.object members true).IsJson text → AreReadable members →
    named members "data" = [node] → node.IsJson alone →
    Request.readJson structureName codec (.success .json fork text) =
      (codec.decode alone).mapError fun e => .unreadable structureName e.message

theorem readsDataAlone {α : Type} (codec : Codec α) : ReadsDataAlone codec := by
  intro structureName fork members node text alone isJson readable only isAlone
  have hdata : codec.data.decode text = codec.decode alone := by
    rw [codec.data.decode_of_isJson isJson, codec.decode_of_isJson isAlone]
    exact codec.data_read_eq readable isJson.complete only
  show Request.readData structureName codec text = _
  rw [Request.readData, hdata]
  cases codec.decode alone <;> rfl

namespace WireType

/-- **Objects are read by their fields.** A value of a type is read from a text that starts as an
object if and only if this is one JSON text with nothing after it, its keys are readable, and each
field stands in it once, with what is read as the value of the field. So the order of the members
does not matter, nor do other members, in the object itself and in those inside it. The same holds
of responses with one value or a list of them, of which the value under `data` alone is read. -/
theorem reads_objects (type : WireType) :
    type.codec.ReadsObjects type.fields ∧
    type.codec.data.ReadsObjects [type.codec.dataField] ∧
    (Codec.list type.codec).data.ReadsObjects [(Codec.list type.codec).dataField] ∧
    ReadsDataAlone type.codec ∧ ReadsDataAlone (Codec.list type.codec) := by
  refine ⟨?_, ?_, ?_, ?_, ?_⟩
  · exact type.isStructure_codec.readsObjects
  · exact (Codec.isStructure_data type.codec).readsObjects
  · exact (Codec.isStructure_data (Codec.list type.codec)).readsObjects
  · exact readsDataAlone type.codec
  · exact readsDataAlone (Codec.list type.codec)

/-- Whether validator 5 was seen, with the members in another order, one of them with an escape in
its name, and with a member of another shape among them. -/
def shuffledLiveness : Bytes :=
  Utf8.encode ("\x7b\"is_live\": true, \"x\": [\x7b\"\": 1e999\x7d, \"\\ud83d\"], " ++
    "\"\\u0069ndex\": \"5\"\x7d")

theorem reads_objects_liveness :
    StartsObject shuffledLiveness ∧
      validatorLiveness.codec.decode shuffledLiveness = .ok ⟨5, true⟩ ∧ ∃ members,
        (Json.Node.object members true).IsJson shuffledLiveness ∧ AreReadable members ∧
          Json.Field.Read validatorLiveness.fields members ⟨5, true⟩ := by
  have starts : StartsObject shuffledLiveness := by
    rfl
  have decoded : validatorLiveness.codec.decode shuffledLiveness = .ok ⟨5, true⟩ := by
    rfl
  exact ⟨starts, decoded, ((reads_objects validatorLiveness).1.decode_iff starts _).1 decoded⟩

end WireType

end Beacon
