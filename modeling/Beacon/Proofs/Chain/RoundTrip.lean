import Beacon.Proofs.Chain.Sidecars

/-!
# JSON texts of values

Chain objects and what nodes report are written as JSON texts and read back from them, by themselves
and under the member `data` of a response, one or a list of them. `WireType` lists their types, each
with its codec. None of the codecs loses anything (`WireType.isLossless_codec`): each of them is put
together from codecs that do not, and so are the codecs of responses.
-/

namespace Beacon

open Json

/-! ### Structures -/

theorem Checkpoint.isLossless_codec : Checkpoint.codec.IsLossless := by
  refine Codec.isLossless_record _ (by decide) ?_ fun _ => rfl
  simp only [List.forall_mem_cons]
  exact ⟨Codec.isLossless_quoted, Codec.isLossless_hex 32, nofun⟩

theorem Genesis.isLossless_codec : Genesis.codec.IsLossless := by
  refine Codec.isLossless_record _ (by decide) ?_ fun _ => rfl
  simp only [List.forall_mem_cons]
  exact ⟨Codec.isLossless_quoted, Codec.isLossless_hex 32, Codec.isLossless_hex 4, nofun⟩

theorem isLossless_rootCodec : rootCodec.IsLossless := by
  refine Codec.isLossless_record _ (by decide) ?_ fun _ => rfl
  simp only [List.forall_mem_cons]
  exact ⟨Codec.isLossless_hex 32, nofun⟩

theorem HeaderReport.isLossless_codec : HeaderReport.codec.IsLossless := by
  refine Codec.isLossless_record _ (by decide) ?_ fun _ => rfl
  simp only [List.forall_mem_cons]
  exact ⟨Codec.isLossless_hex 32, Codec.isLossless_bool, SignedBlockHeader.isLossless_codec, nofun⟩

theorem FinalityCheckpoints.isLossless_codec : FinalityCheckpoints.codec.IsLossless := by
  refine Codec.isLossless_record _ (by decide) ?_ fun _ => rfl
  simp only [List.forall_mem_cons]
  exact ⟨Checkpoint.isLossless_codec, Checkpoint.isLossless_codec, Checkpoint.isLossless_codec,
    nofun⟩

theorem NodeVersion.isLossless_codec : NodeVersion.codec.IsLossless := by
  refine Codec.isLossless_record _ (by decide) ?_ fun _ => rfl
  simp only [List.forall_mem_cons]
  exact ⟨Codec.isLossless_text, nofun⟩

theorem ValidatorLiveness.isLossless_codec : ValidatorLiveness.codec.IsLossless := by
  refine Codec.isLossless_record _ (by decide) ?_ fun _ => rfl
  simp only [List.forall_mem_cons]
  exact ⟨Codec.isLossless_quoted, Codec.isLossless_bool, nofun⟩

/-! ### All of them -/

/-- The types whose values are written as JSON. -/
inductive WireType where
  | checkpoint
  | blockHeader
  | signedBlockHeader
  | blobSidecar
  | genesis
  | root
  | headerReport
  | finalityCheckpoints
  | nodeVersion
  | validatorLiveness

namespace WireType

/-- The values of a type. -/
abbrev Value : WireType → Type
  | .checkpoint => Checkpoint
  | .blockHeader => BlockHeader
  | .signedBlockHeader => SignedBlockHeader
  | .blobSidecar => BlobSidecar
  | .genesis => Genesis
  | .root => Digest
  | .headerReport => HeaderReport
  | .finalityCheckpoints => FinalityCheckpoints
  | .nodeVersion => NodeVersion
  | .validatorLiveness => ValidatorLiveness

/-- How values of a type are written and read. -/
def codec : (type : WireType) → Codec type.Value
  | .checkpoint => Checkpoint.codec
  | .blockHeader => BlockHeader.codec
  | .signedBlockHeader => SignedBlockHeader.codec
  | .blobSidecar => BlobSidecar.codec
  | .genesis => Genesis.codec
  | .root => rootCodec
  | .headerReport => HeaderReport.codec
  | .finalityCheckpoints => FinalityCheckpoints.codec
  | .nodeVersion => NodeVersion.codec
  | .validatorLiveness => ValidatorLiveness.codec

theorem isLossless_codec (type : WireType) : type.codec.IsLossless := by
  cases type with
  | checkpoint => exact Checkpoint.isLossless_codec
  | blockHeader => exact BlockHeader.isLossless_codec
  | signedBlockHeader => exact SignedBlockHeader.isLossless_codec
  | blobSidecar => exact BlobSidecar.isLossless_codec
  | genesis => exact Genesis.isLossless_codec
  | root => exact isLossless_rootCodec
  | headerReport => exact HeaderReport.isLossless_codec
  | finalityCheckpoints => exact FinalityCheckpoints.isLossless_codec
  | nodeVersion => exact NodeVersion.isLossless_codec
  | validatorLiveness => exact ValidatorLiveness.isLossless_codec

/-- **Values are read back from their JSON texts.** So are responses with one value or with a list
of them. -/
theorem reads_back (type : WireType) :
    (∀ value, type.codec.decode (type.codec.encode value) = .ok value) ∧
    (∀ value, type.codec.data.decode (type.codec.data.encode value) = .ok value) ∧
    ∀ values, (Codec.list type.codec).data.decode ((Codec.list type.codec).data.encode values) =
      .ok values := by
  have lossless : type.codec.IsLossless := type.isLossless_codec
  refine ⟨?_, ?_, ?_⟩
  · exact lossless.decode_encode
  · exact lossless.data.decode_encode
  · exact lossless.list.data.decode_encode

end WireType

end Beacon
