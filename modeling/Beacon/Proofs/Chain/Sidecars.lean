import Beacon.Proofs.Bytes.Pieces
import Beacon.Proofs.Json.Faithful
import Beacon.Proofs.Ssz.FixedSize
import Beacon.Request
import Mathlib.Algebra.Group.Nat.Defs
import Mathlib.Order.Bounds.Defs

/-!
# Sidecars in either encoding

A list of sidecars is read back from its serialized form, in which the sidecars stand one after the
other, and from every form of its JSON value. Serialized bytes are refused for their length alone,
as every piece of the right length is a sidecar.
-/

namespace Beacon

/-! ### JSON forms -/

theorem Blob.isLossless_codec : Blob.codec.IsLossless :=
  Json.Codec.isLossless_ofText fun blob => by
    rw [readHex, Hex.decode?_encode]
    simp only [Blob.ofBytes_toList]

theorem BlockHeader.isLossless_codec : BlockHeader.codec.IsLossless := by
  refine Json.Codec.isLossless_record _ (by decide) ?_ fun _ => rfl
  simp only [List.forall_mem_cons]
  exact ⟨Json.Codec.isLossless_quoted, Json.Codec.isLossless_quoted, Json.Codec.isLossless_hex 32,
    Json.Codec.isLossless_hex 32, Json.Codec.isLossless_hex 32, nofun⟩

theorem SignedBlockHeader.isLossless_codec : SignedBlockHeader.codec.IsLossless := by
  refine Json.Codec.isLossless_record _ (by decide) ?_ fun _ => rfl
  simp only [List.forall_mem_cons]
  exact ⟨BlockHeader.isLossless_codec, Json.Codec.isLossless_hex 96, nofun⟩

theorem BlobSidecar.isLossless_codec : BlobSidecar.codec.IsLossless := by
  refine Json.Codec.isLossless_record _ (by decide) ?_ fun _ => rfl
  simp only [List.forall_mem_cons]
  exact ⟨Json.Codec.isLossless_quoted, Blob.isLossless_codec, Json.Codec.isLossless_hex 48,
    Json.Codec.isLossless_hex 48, SignedBlockHeader.isLossless_codec,
    Json.Codec.isLossless_hexVector 32 17, nofun⟩

/-! ### Serialized forms -/

namespace BlobSidecar

theorem size_pos : 0 < size := by
  rw [size_eq]
  decide

theorem pieces_listToSsz (sidecars : List BlobSidecar) :
    Bytes.pieces size (listToSsz sidecars) = sidecars.map toSsz := by
  induction sidecars with
  | nil => rfl
  | cons sidecar rest ih =>
    rw [listToSsz, List.flatMap_cons, Bytes.pieces_append size_pos (length_toSsz sidecar),
      List.map_cons, ← ih, listToSsz]

theorem length_listToSsz (sidecars : List BlobSidecar) :
    (listToSsz sidecars).length = sidecars.length * size := by
  induction sidecars with
  | nil => rw [List.length_nil, Nat.zero_mul]; rfl
  | cons sidecar rest ih =>
    rw [listToSsz, List.flatMap_cons, List.length_append, length_toSsz, List.length_cons,
      Nat.succ_mul, Nat.add_comm, ← ih, listToSsz]

theorem readAll_map_toSsz (sidecars done : List BlobSidecar) :
    readAll done (sidecars.map toSsz) = .ok (done.reverse ++ sidecars) := by
  induction sidecars generalizing done with
  | nil => simp [readAll]
  | cons sidecar rest ih =>
    rw [List.map_cons, readAll, isFixedSize.read_write]
    simp only
    rw [ih, List.reverse_cons, List.append_assoc, List.singleton_append]

/-- A list of sidecars is read back from its serialized form. -/
theorem listOfSsz_listToSsz (sidecars : List BlobSidecar) :
    listOfSsz (listToSsz sidecars) = .ok sidecars := by
  have hlen : (listToSsz sidecars).length % size = 0 := by
    rw [length_listToSsz, Nat.mul_mod_left]
  rw [listOfSsz, if_pos hlen, pieces_listToSsz, readAll_map_toSsz]
  rfl

/-- Bytes of a right length are the serialized form of a list of sidecars. -/
theorem exists_eq_listToSsz {count : Nat} {bytes : Bytes} (h : bytes.length = count * size) :
    ∃ sidecars, bytes = listToSsz sidecars := by
  induction count generalizing bytes with
  | zero =>
    rw [Nat.zero_mul] at h
    exact ⟨[], List.eq_nil_of_length_eq_zero h⟩
  | succ count ih =>
    rw [Nat.succ_mul] at h
    have hfirst : (bytes.take size).length = size := by
      rw [List.length_take, h]
      exact Nat.min_eq_left (Nat.le_add_left ..)
    have hrest : (bytes.drop size).length = count * size := by
      rw [List.length_drop, h, Nat.add_sub_cancel_right]
    obtain ⟨sidecar, -, hwrite⟩ := exists_ofSsz hfirst
    obtain ⟨sidecars, hsidecars⟩ := ih hrest
    refine ⟨sidecar :: sidecars, ?_⟩
    rw [listToSsz, List.flatMap_cons, hwrite, ← listToSsz, ← hsidecars, List.take_append_drop]

/-- Serialized forms are refused for their length alone. -/
theorem listOfSsz_cases (bytes : Bytes) :
    (∃ sidecars, bytes = listToSsz sidecars ∧ listOfSsz bytes = .ok sidecars) ∨
      bytes.length % size ≠ 0 ∧
        listOfSsz bytes =
          .error (.wrongLength "BlobSidecarList" ((bytes.length / size + 1) * size)
            bytes.length) := by
  by_cases h : bytes.length % size = 0
  · obtain ⟨sidecars, rfl⟩ := exists_eq_listToSsz
      (Nat.div_mul_cancel (Nat.dvd_of_mod_eq_zero h)).symm
    exact .inl ⟨sidecars, rfl, listOfSsz_listToSsz sidecars⟩
  · exact .inr ⟨h, if_neg h⟩

/-- The next length of a list is the least one above. -/
theorem isLeast_nextLength (length : Nat) :
    IsLeast {n | size ∣ n ∧ length < n} ((length / size + 1) * size) := by
  refine ⟨⟨Nat.dvd_mul_left .., ?_⟩, ?_⟩
  · rw [Nat.mul_comm]
    exact Nat.lt_mul_div_succ length size_pos
  · rintro n ⟨⟨count, rfl⟩, hlt⟩
    have hcount : length / size < count := (Nat.div_lt_iff_lt_mul size_pos).2 (by
      rwa [Nat.mul_comm])
    rw [Nat.mul_comm size]
    exact Nat.mul_le_mul_right size hcount

/-- **Lists of sidecars.** A list is read back from its serialized form. A byte string is such a form
if and only if its length is a multiple of the length of a sidecar; it then holds that many of them
and is written again as it was. Every other one is refused for its length alone, and is told the
next length of a list, which needs no more than 64 bits where the length itself needs 63. -/
theorem list_forms (bytes : Bytes) :
    (∀ sidecars, listOfSsz (listToSsz sidecars) = .ok sidecars) ∧
    ((∃ sidecars, listOfSsz bytes = .ok sidecars) ↔ size ∣ bytes.length) ∧
    (∀ sidecars, listOfSsz bytes = .ok sidecars →
      sidecars.length = bytes.length / size ∧ listToSsz sidecars = bytes) ∧
    ∀ e, listOfSsz bytes = .error e →
      ∃ expected, e = .wrongLength "BlobSidecarList" expected bytes.length ∧
        IsLeast {n | size ∣ n ∧ bytes.length < n} expected ∧
        (bytes.length < 2 ^ 63 → expected < UInt64.size) := by
  refine ⟨listOfSsz_listToSsz, ?_⟩
  obtain ⟨own, rfl, hread⟩ | ⟨hmod, hread⟩ := listOfSsz_cases bytes
  · rw [hread, length_listToSsz]
    refine ⟨⟨fun _ => Nat.dvd_mul_left .., fun _ => ⟨own, rfl⟩⟩, ?_, nofun⟩
    rintro sidecars ⟨⟩
    exact ⟨(Nat.mul_div_cancel _ size_pos).symm, rfl⟩
  · rw [hread]
    refine ⟨⟨nofun, fun hdvd => absurd (Nat.mod_eq_zero_of_dvd hdvd) hmod⟩, nofun, ?_⟩
    rintro e ⟨⟩
    refine ⟨_, rfl, isLeast_nextLength bytes.length, fun hsmall => ?_⟩
    -- the next multiple is less than one sidecar away
    have hnear : (bytes.length / size + 1) * size ≤ bytes.length + size := by
      rw [Nat.add_one_mul]
      exact Nat.add_le_add_right (Nat.div_mul_le_self ..) size
    have hsize : UInt64.size = 2 ^ 64 := rfl
    rw [size_eq] at hnear
    rw [hsize, size_eq]
    omega

/-- A sidecar of zeros but for its place. -/
def blank (index : UInt64) : BlobSidecar where
  index := index
  blob := .zero blobSize
  kzgCommitment := .zero 48
  kzgProof := .zero 48
  signedBlockHeader := ⟨⟨0, 0, .zero 32, .zero 32, .zero 32⟩, .zero 96⟩
  inclusionProof := .replicate 17 (.zero 32)

/-- Two sidecars are read back, and one octet is refused. -/
theorem list_forms_pair :
    listOfSsz (listToSsz [blank 3, blank 1]) = .ok [blank 3, blank 1] ∧
      2 = (listToSsz [blank 3, blank 1]).length / size ∧
      listOfSsz [7] = .error (.wrongLength "BlobSidecarList" 131928 1) ∧
      ∃ expected, DataError.wrongLength "BlobSidecarList" 131928 1 =
          .wrongLength "BlobSidecarList" expected 1 ∧
        IsLeast {n | size ∣ n ∧ 1 < n} expected ∧ expected < UInt64.size := by
  have pair := list_forms (listToSsz [blank 3, blank 1])
  have single := list_forms [7]
  have refused : listOfSsz [7] = .error (.wrongLength "BlobSidecarList" 131928 1) := by
    rfl
  have read : listOfSsz (listToSsz [blank 3, blank 1]) = .ok [blank 3, blank 1] := pair.1 _
  obtain ⟨expected, heq, hleast, hsmall⟩ := single.2.2.2 _ refused
  exact ⟨read, (pair.2.2.1 _ read).1, refused, expected, heq, hleast, hsmall (by decide)⟩

end BlobSidecar

/-! ### Replies -/

namespace Request

/-- The sidecars of a reply in the encoding of the reply. -/
def readPayload (reply : Reply) : Except DataError (List BlobSidecar) :=
  match reply.encoding? with
  | some .ssz => BlobSidecar.listOfSsz reply.payload
  | _ => readData "BlobSidecars" (.list BlobSidecar.codec) reply.payload

theorem readSidecars_of_isSupported {reply : Reply} {fork : Fork} (h : reply.fork? = some fork)
    (supported : BlobSidecar.isSupported fork = true) :
    readSidecars reply =
      (readPayload reply).map fun sidecars => ({ fork, sidecars } : VersionedSidecars) := by
  have hfork : requireFork "BlobSidecars" reply = .ok fork := by rw [requireFork, h]
  have hnew (sidecars : List BlobSidecar) :
      VersionedSidecars.ofSidecars fork sidecars = .ok { fork, sidecars } := if_pos supported
  have hbind (read : Except DataError (List BlobSidecar)) :
      (read >>= VersionedSidecars.ofSidecars fork) =
        read.map fun sidecars => ({ fork, sidecars } : VersionedSidecars) := by
    cases read with
    | ok sidecars => exact hnew sidecars
    | error e => rfl
  refine (Ssz.bind_of_ok hfork _).trans ((if_pos supported).trans ?_)
  unfold readPayload
  obtain - | - | - := reply.encoding? <;> exact hbind _

theorem readSidecars_of_not_isSupported {reply : Reply} {fork : Fork} (h : reply.fork? = some fork)
    (unsupported : BlobSidecar.isSupported fork = false) :
    readSidecars reply = .error (.unsupportedFork "BlobSidecars" fork) := by
  have hfork : requireFork "BlobSidecars" reply = .ok fork := by rw [requireFork, h]
  exact (Ssz.bind_of_ok hfork _).trans (if_neg (by rw [unsupported]; exact Bool.false_ne_true))

theorem readSidecars_of_none {reply : Reply} (h : reply.fork? = none) :
    readSidecars reply = .error (.missingFork "BlobSidecars") :=
  Ssz.bind_of_error (by rw [requireFork, h]) _

theorem readPayload_ne_error (reply : Reply) (fork : Fork) :
    readPayload reply ≠ .error (.unsupportedFork "BlobSidecar" fork) := by
  unfold readPayload
  split
  · obtain ⟨sidecars, -, hread⟩ | ⟨-, hread⟩ := BlobSidecar.listOfSsz_cases reply.payload
    · rw [hread]
      nofun
    · rw [hread]
      nofun
  · unfold readData
    split <;> nofun

/-- Sidecars that were read are never refused for their fork. -/
theorem readSidecars_ne_error (reply : Reply) (fork : Fork) :
    readSidecars reply ≠ .error (.unsupportedFork "BlobSidecar" fork) := by
  cases h : reply.fork? with
  | none =>
    rw [readSidecars_of_none h]
    nofun
  | some own =>
    cases supported : BlobSidecar.isSupported own with
    | true =>
      rw [readSidecars_of_isSupported h supported]
      have hne := readPayload_ne_error reply fork
      cases hread : readPayload reply with
      | ok sidecars => nofun
      | error e =>
        rw [hread] at hne
        exact fun heq => hne (congrArg Except.error (Except.error.inj heq))
    | false =>
      rw [readSidecars_of_not_isSupported h supported]
      intro heq
      exact absurd (DataError.unsupportedFork.inj (Except.error.inj heq)).1 (by decide)

end Request

end Beacon
