import Beacon.Chain.BlobSidecar
import Beacon.Chain.Checkpoint
import Mathlib.Logic.Function.Defs

/-!
# Serialized forms of fixed length

Checkpoints, block headers and blob sidecars are written as their parts one after the other, and are
read by cutting off one part after the other. `IsFixedSize` says that such a form fits: values and
byte strings of the one length correspond to each other, and every other byte string is refused for
its length.

* `Ssz.cut_eq_ok_iff` says when a cut succeeds and what it takes away from the bytes at the cursor;
  `cut_cases`, `cutUInt64_cases` and `cutVector_cases` say so for octets, numbers and lists of
  pieces within the bytes;
* `exists_ofSsz` of each structure follows the cuts through all bytes, so that the parts that are
  read make up the whole;
* `serialized_forms` puts the four structures together.
-/

namespace Beacon

/-- Octets read as a number are written back as they were. -/
theorem Bytes.ofNat_toNat (bytes : Bytes) : ofNat bytes.length (toNat bytes) = bytes := by
  induction bytes with
  | nil => rfl
  | cons b rest ih =>
    have hlow : (b.toNat + 256 * toNat rest).toUInt8 = b := by
      refine UInt8.toNat_inj.1 ?_
      have hb := b.toNat_lt
      simp only [Nat.toUInt8, UInt8.toNat_ofNat']
      omega
    have hhigh : (b.toNat + 256 * toNat rest) / 256 = toNat rest := by
      have hb := b.toNat_lt
      omega
    rw [List.length_cons, toNat, ofNat, hlow, hhigh, ih]

/-- Octets make up less than the number that needs one more of them. -/
theorem Bytes.toNat_lt (bytes : Bytes) : toNat bytes < Nat.pow 256 bytes.length := by
  induction bytes with
  | nil => decide
  | cons b rest ih =>
    have hb := b.toNat_lt
    have hpow : Nat.pow 256 (b :: rest).length = Nat.pow 256 rest.length * 256 := rfl
    rw [toNat, hpow]
    omega

namespace ByteVector

theorem toNat_toUInt64 (v : ByteVector 8) : v.toUInt64.toNat = Bytes.toNat v.toList := by
  have hlt := Bytes.toNat_lt v.toList
  rw [length_toList] at hlt
  rw [toUInt64, Nat.toUInt64, UInt64.toNat_ofNat']
  exact Nat.mod_eq_of_lt hlt

theorem ofUInt64_toUInt64 (v : ByteVector 8) : ofUInt64 v.toUInt64 = v := by
  have hwrite := Bytes.ofNat_toNat v.toList
  rw [length_toList] at hwrite
  apply ext
  show Bytes.ofNat 8 v.toUInt64.toNat = v.toList
  rw [toNat_toUInt64, hwrite]

theorem ofUInt64_injective : Function.Injective ofUInt64 := by
  intro a b h
  rw [← toUInt64_ofUInt64 a, h, toUInt64_ofUInt64]

theorem length_flatMap_toList {n : Nat} (pieces : List (ByteVector n)) :
    (pieces.flatMap toList).length = pieces.length * n := by
  simp [List.length_flatMap, List.map_const']

/-- Pieces of one length can be told from each other when they are put together. -/
theorem flatMap_toList_inj {n : Nat} {pieces pieces' : List (ByteVector n)}
    (hlen : pieces.length = pieces'.length)
    (h : pieces.flatMap toList = pieces'.flatMap toList) : pieces = pieces' := by
  induction pieces generalizing pieces' with
  | nil => exact (List.eq_nil_of_length_eq_zero hlen.symm).symm
  | cons v rest ih =>
    cases pieces' with
    | nil => cases hlen
    | cons v' rest' =>
      obtain ⟨hfirst, hrest⟩ := List.append_inj h (by simp)
      rw [ext hfirst, ih (Nat.succ.inj hlen) hrest]

end ByteVector

/-! ### Cuts -/

namespace Ssz

variable {bytes : Bytes} {cursor : UInt64} {position : Nat}

/-- A cut succeeds if and only if it ends within the bytes and within the 64-bit positions. The
cursor passes what is cut off. -/
theorem cut_eq_ok_iff {n : Nat} {next : UInt64} {piece : ByteVector n} :
    cut n bytes cursor = .ok (next, piece) ↔
      cursor.toNat + n < UInt64.size ∧ cursor.toNat + n ≤ bytes.length ∧
        next.toNat = cursor.toNat + n ∧ piece.toList = (bytes.drop cursor.toNat).take n := by
  unfold cut
  split
  · next hover =>
    refine iff_of_false (by simp) ?_
    omega
  · next hunder =>
    rw [Nat.not_le] at hunder
    have hnext : (cursor + n.toUInt64).toNat = cursor.toNat + n := by
      have hsize : UInt64.size = 2 ^ 64 := rfl
      rw [hsize] at hunder
      rw [UInt64.toNat_add, Nat.toUInt64, UInt64.toNat_ofNat', Nat.add_mod_mod,
        Nat.mod_eq_of_lt hunder]
    split
    · next hfits =>
      rw [and_iff_right hunder, and_iff_right hfits, Except.ok.injEq, Prod.mk.injEq, ← hnext,
        UInt64.toNat_inj]
      constructor
      · rintro ⟨rfl, rfl⟩
        exact ⟨rfl, rfl⟩
      · rintro ⟨rfl, hpiece⟩
        exact ⟨rfl, ByteVector.ext hpiece.symm⟩
    · next hshort =>
      refine iff_of_false (by simp) ?_
      omega

theorem exists_cut {n : Nat} (small : cursor.toNat + n < UInt64.size)
    (fits : cursor.toNat + n ≤ bytes.length) :
    ∃ next piece, cut n bytes cursor = .ok (next, piece) := by
  rw [cut, if_neg (by omega), dif_pos fits]
  exact ⟨_, _, rfl⟩

/-- Within the bytes a cut succeeds, and the cursor passes what is cut off. -/
theorem cut_cases (small : bytes.length < UInt64.size) (hcursor : cursor.toNat = position) (n : Nat)
    (h : position + n ≤ bytes.length) :
    ∃ next piece, cut n bytes cursor = .ok (next, piece) ∧ next.toNat = position + n ∧
      bytes.drop position = piece.toList ++ bytes.drop (position + n) := by
  subst hcursor
  obtain ⟨next, piece, hcut⟩ := exists_cut (by omega) h
  obtain ⟨-, -, hnext, hpiece⟩ := cut_eq_ok_iff.1 hcut
  refine ⟨next, piece, hcut, hnext, ?_⟩
  rw [hpiece, ← List.drop_drop, List.take_append_drop]

theorem cutUInt64_cases (small : bytes.length < UInt64.size) (hcursor : cursor.toNat = position)
    (h : position + 8 ≤ bytes.length) :
    ∃ next value, cutUInt64 bytes cursor = .ok (next, value) ∧ next.toNat = position + 8 ∧
      bytes.drop position = (ByteVector.ofUInt64 value).toList ++ bytes.drop (position + 8) := by
  obtain ⟨next, piece, hcut, hnext, hdrop⟩ := cut_cases small hcursor 8 h
  refine ⟨next, piece.toUInt64, by rw [cutUInt64, hcut], hnext, ?_⟩
  rwa [ByteVector.ofUInt64_toUInt64]

theorem cutVector_cases (small : bytes.length < UInt64.size) (hcursor : cursor.toNat = position)
    (n count : Nat) (h : position + count * n ≤ bytes.length) :
    ∃ next pieces, cutVector n bytes cursor count = .ok (next, pieces) ∧
      next.toNat = position + count * n ∧
      bytes.drop position =
        pieces.toList.flatMap ByteVector.toList ++ bytes.drop (position + count * n) := by
  induction count with
  | zero => exact ⟨cursor, #v[], rfl, by simpa using hcursor, by simp⟩
  | succ count ih =>
    rw [Nat.add_one_mul, ← Nat.add_assoc] at h ⊢
    obtain ⟨middle, pieces, hvector, hmiddle, hdrop⟩ := ih (by omega)
    obtain ⟨next, piece, hcut, hnext, hdrop'⟩ := cut_cases small hmiddle n h
    refine ⟨next, pieces.push piece, by simp only [cutVector, hvector, hcut], hnext, ?_⟩
    rw [hdrop, hdrop', Vector.toList_push, List.flatMap_append, List.flatMap_singleton,
      List.append_assoc]

theorem part_eq_ok {α : Type} {structureName : String} {result : Except CutError α} {value : α}
    (h : result = .ok value) : part structureName result = .ok value := by
  rw [h]
  rfl

theorem checkLength_eq_ok {structureName : String} {size : Nat} (h : bytes.length = size) :
    checkLength structureName bytes size = .ok () := if_pos h

theorem checkLength_eq_error {structureName : String} {size : Nat} (h : bytes.length ≠ size) :
    checkLength structureName bytes size = .error (.wrongLength structureName size bytes.length) :=
  if_neg h

/-- A reader goes on with what its last step has read. -/
theorem bind_of_ok {α β : Type} {result : Except DataError α} {value : α}
    (h : result = .ok value) (next : α → Except DataError β) : (result >>= next) = next value := by
  rw [h]
  rfl

/-- A reader stops at the first error. -/
theorem bind_of_error {α β : Type} {result : Except DataError α} {e : DataError}
    (h : result = .error e) (next : α → Except DataError β) : (result >>= next) = .error e := by
  rw [h]
  rfl

end Ssz

/-! ### Structures -/

/-- A serialized form has one length: every value has such a form, and the byte strings of that
length are the forms of values. All others are refused for their length. -/
structure IsFixedSize {α : Type} (structureName : String) (size : Nat) (write : α → Bytes)
    (read : Bytes → Except DataError α) : Prop where
  /-- What is written has the length. -/
  length_write : ∀ x, (write x).length = size
  /-- What is written reads back. -/
  read_write : ∀ x, read (write x) = .ok x
  /-- What has the length can be read, and nothing else. -/
  exists_read_iff : ∀ bytes, (∃ x, read bytes = .ok x) ↔ bytes.length = size
  /-- What is read was written so. -/
  write_of_read : ∀ bytes x, read bytes = .ok x → write x = bytes
  /-- The only error is a wrong length. -/
  read_of_length_ne : ∀ bytes, bytes.length ≠ size →
    read bytes = .error (.wrongLength structureName size bytes.length)

/-- A form fits if different values have different forms of the length, if all that has the length
can be read, and is written so, and if the length is looked at first. -/
theorem IsFixedSize.of_exists_read {α : Type} {structureName : String} {size : Nat}
    {write : α → Bytes} {read : Bytes → Except DataError α}
    (length_write : ∀ x, (write x).length = size) (injective : Function.Injective write)
    (read_of_length_ne : ∀ bytes, bytes.length ≠ size →
      read bytes = .error (.wrongLength structureName size bytes.length))
    (exists_read : ∀ bytes, bytes.length = size → ∃ x, read bytes = .ok x ∧ write x = bytes) :
    IsFixedSize structureName size write read := by
  have length_of_read (bytes : Bytes) (x : α) (hread : read bytes = .ok x) :
      bytes.length = size := by
    by_cases h : bytes.length = size
    · exact h
    · rw [read_of_length_ne bytes h] at hread
      cases hread
  refine ⟨length_write, fun x => ?_, fun bytes => ⟨?_, fun h => ?_⟩, fun bytes x hread => ?_,
    read_of_length_ne⟩
  · obtain ⟨y, hread, hwrite⟩ := exists_read (write x) (length_write x)
    rw [hread, injective hwrite]
  · rintro ⟨x, hread⟩
    exact length_of_read bytes x hread
  · obtain ⟨x, hread, -⟩ := exists_read bytes h
    exact ⟨x, hread⟩
  · obtain ⟨y, hread', hwrite⟩ := exists_read bytes (length_of_read bytes x hread)
    rw [hread] at hread'
    cases hread'
    exact hwrite

namespace Checkpoint

theorem length_toSsz (c : Checkpoint) : c.toSsz.length = size := by simp [toSsz, size]

theorem toSsz_injective : Function.Injective toSsz := by
  rintro ⟨epoch, root⟩ ⟨epoch', root'⟩ h
  obtain ⟨hepoch, hroot⟩ := List.append_inj' h (by simp)
  cases ByteVector.ofUInt64_injective (ByteVector.ext hepoch)
  cases ByteVector.ext hroot
  rfl

theorem exists_ofSsz {bytes : Bytes} (h : bytes.length = size) :
    ∃ c, ofSsz bytes = .ok c ∧ c.toSsz = bytes := by
  have small : bytes.length < UInt64.size := h ▸ by decide
  have hsize := h
  rw [size] at hsize
  obtain ⟨_, epoch, hepoch, hcursor, hdrop⟩ :=
    Ssz.cutUInt64_cases small UInt64.toNat_zero (by omega)
  obtain ⟨_, root, hroot, hcursor, hdrop'⟩ := Ssz.cut_cases small hcursor 32 (by omega)
  refine ⟨⟨epoch, root⟩, ?_, ?_⟩
  · refine (Ssz.bind_of_ok (Ssz.checkLength_eq_ok h) _).trans ?_
    refine (Ssz.bind_of_ok (Ssz.part_eq_ok hepoch) _).trans ?_
    exact Ssz.bind_of_ok (Ssz.part_eq_ok hroot) _
  · have hend : bytes.drop (0 + 8 + 32) = [] := List.drop_eq_nil_of_le (by omega)
    rw [hdrop', hend, List.append_nil] at hdrop
    exact hdrop.symm

theorem isFixedSize : IsFixedSize "Checkpoint" size toSsz ofSsz :=
  .of_exists_read length_toSsz toSsz_injective
    (fun _ h => Ssz.bind_of_error (Ssz.checkLength_eq_error h) _)
    (fun _ => exists_ofSsz)

end Checkpoint

namespace BlockHeader

theorem length_toSsz (h : BlockHeader) : h.toSsz.length = size := by simp [toSsz, size]

theorem toSsz_injective : Function.Injective toSsz := by
  rintro ⟨slot, proposerIndex, parentRoot, stateRoot, bodyRoot⟩
    ⟨slot', proposerIndex', parentRoot', stateRoot', bodyRoot'⟩ h
  obtain ⟨h, hbodyRoot⟩ := List.append_inj' h (by simp)
  obtain ⟨h, hstateRoot⟩ := List.append_inj' h (by simp)
  obtain ⟨h, hparentRoot⟩ := List.append_inj' h (by simp)
  obtain ⟨hslot, hproposerIndex⟩ := List.append_inj' h (by simp)
  cases ByteVector.ofUInt64_injective (ByteVector.ext hslot)
  cases ByteVector.ofUInt64_injective (ByteVector.ext hproposerIndex)
  cases ByteVector.ext hparentRoot
  cases ByteVector.ext hstateRoot
  cases ByteVector.ext hbodyRoot
  rfl

theorem exists_ofSsz {bytes : Bytes} (h : bytes.length = size) :
    ∃ x, ofSsz bytes = .ok x ∧ x.toSsz = bytes := by
  have small : bytes.length < UInt64.size := h ▸ by decide
  have hsize := h
  rw [size] at hsize
  obtain ⟨_, slot, hslot, hcursor, hdrop₁⟩ :=
    Ssz.cutUInt64_cases small UInt64.toNat_zero (by omega)
  obtain ⟨_, proposerIndex, hproposerIndex, hcursor, hdrop₂⟩ :=
    Ssz.cutUInt64_cases small hcursor (by omega)
  obtain ⟨_, parentRoot, hparentRoot, hcursor, hdrop₃⟩ := Ssz.cut_cases small hcursor 32 (by omega)
  obtain ⟨_, stateRoot, hstateRoot, hcursor, hdrop₄⟩ := Ssz.cut_cases small hcursor 32 (by omega)
  obtain ⟨_, bodyRoot, hbodyRoot, hcursor, hdrop₅⟩ := Ssz.cut_cases small hcursor 32 (by omega)
  refine ⟨⟨slot, proposerIndex, parentRoot, stateRoot, bodyRoot⟩, ?_, ?_⟩
  · refine (Ssz.bind_of_ok (Ssz.checkLength_eq_ok h) _).trans ?_
    refine (Ssz.bind_of_ok (Ssz.part_eq_ok hslot) _).trans ?_
    refine (Ssz.bind_of_ok (Ssz.part_eq_ok hproposerIndex) _).trans ?_
    refine (Ssz.bind_of_ok (Ssz.part_eq_ok hparentRoot) _).trans ?_
    refine (Ssz.bind_of_ok (Ssz.part_eq_ok hstateRoot) _).trans ?_
    exact Ssz.bind_of_ok (Ssz.part_eq_ok hbodyRoot) _
  · have hend : bytes.drop (0 + 8 + 8 + 32 + 32 + 32) = [] := List.drop_eq_nil_of_le (by omega)
    rw [hdrop₂, hdrop₃, hdrop₄, hdrop₅, hend, List.append_nil] at hdrop₁
    simp only [toSsz, List.append_assoc]
    exact hdrop₁.symm

theorem isFixedSize : IsFixedSize "BeaconBlockHeader" size toSsz ofSsz :=
  .of_exists_read length_toSsz toSsz_injective
    (fun _ h => Ssz.bind_of_error (Ssz.checkLength_eq_error h) _)
    (fun _ => exists_ofSsz)

end BlockHeader

namespace SignedBlockHeader

theorem length_toSsz (h : SignedBlockHeader) : h.toSsz.length = size := by
  simp [toSsz, size, BlockHeader.length_toSsz]

theorem toSsz_injective : Function.Injective toSsz := by
  rintro ⟨message, signature⟩ ⟨message', signature'⟩ h
  obtain ⟨hmessage, hsignature⟩ := List.append_inj' h (by simp)
  cases BlockHeader.toSsz_injective hmessage
  cases ByteVector.ext hsignature
  rfl

theorem exists_ofSsz {bytes : Bytes} (h : bytes.length = size) :
    ∃ x, ofSsz bytes = .ok x ∧ x.toSsz = bytes := by
  have small : bytes.length < UInt64.size := h ▸ by decide
  have hsize := h
  rw [size] at hsize
  obtain ⟨_, octets, hoctets, hcursor, hdrop₁⟩ :=
    Ssz.cut_cases small UInt64.toNat_zero BlockHeader.size (by omega)
  obtain ⟨_, signature, hsignature, hcursor, hdrop₂⟩ := Ssz.cut_cases small hcursor 96 (by omega)
  obtain ⟨message, hmessage, hwrite⟩ := BlockHeader.exists_ofSsz octets.length_toList
  refine ⟨⟨message, signature⟩, ?_, ?_⟩
  · refine (Ssz.bind_of_ok (Ssz.checkLength_eq_ok h) _).trans ?_
    refine (Ssz.bind_of_ok (Ssz.part_eq_ok hoctets) _).trans ?_
    refine (Ssz.bind_of_ok hmessage _).trans ?_
    exact Ssz.bind_of_ok (Ssz.part_eq_ok hsignature) _
  · have hend : bytes.drop (0 + BlockHeader.size + 96) = [] := List.drop_eq_nil_of_le (by omega)
    rw [hdrop₂, hend, List.append_nil] at hdrop₁
    rw [toSsz, hwrite]
    exact hdrop₁.symm

theorem isFixedSize : IsFixedSize "SignedBeaconBlockHeader" size toSsz ofSsz :=
  .of_exists_read length_toSsz toSsz_injective
    (fun _ h => Ssz.bind_of_error (Ssz.checkLength_eq_error h) _)
    (fun _ => exists_ofSsz)

end SignedBlockHeader

/-- A byte string of the right length is a blob. -/
theorem Blob.ofBytes_toList (blob : Blob) : ofBytes blob.toList = .ok blob := by
  rw [ofBytes, ByteVector.ofList?_toList]

namespace BlobSidecar

theorem size_eq : size = 131928 := rfl

theorem length_toSsz (s : BlobSidecar) : s.toSsz.length = size := by
  simp only [toSsz, List.length_append, ByteVector.length_toList, SignedBlockHeader.length_toSsz,
    ByteVector.length_flatMap_toList, Vector.length_toList]
  rfl

theorem toSsz_injective : Function.Injective toSsz := by
  rintro ⟨index, blob, kzgCommitment, kzgProof, signedBlockHeader, inclusionProof⟩
    ⟨index', blob', kzgCommitment', kzgProof', signedBlockHeader', inclusionProof'⟩ h
  obtain ⟨h, hinclusionProof⟩ := List.append_inj' h
    (by simp only [ByteVector.length_flatMap_toList, Vector.length_toList])
  obtain ⟨h, hsignedBlockHeader⟩ :=
    List.append_inj' h (by simp only [SignedBlockHeader.length_toSsz])
  obtain ⟨h, hkzgProof⟩ := List.append_inj' h (by simp)
  obtain ⟨h, hkzgCommitment⟩ := List.append_inj' h (by simp)
  obtain ⟨hindex, hblob⟩ := List.append_inj' h (by simp)
  cases ByteVector.ofUInt64_injective (ByteVector.ext hindex)
  cases ByteVector.ext hblob
  cases ByteVector.ext hkzgCommitment
  cases ByteVector.ext hkzgProof
  cases SignedBlockHeader.toSsz_injective hsignedBlockHeader
  cases Vector.toList_inj.1 (ByteVector.flatMap_toList_inj (by simp) hinclusionProof)
  rfl

theorem exists_ofSsz {bytes : Bytes} (h : bytes.length = size) :
    ∃ x, ofSsz bytes = .ok x ∧ x.toSsz = bytes := by
  have small : bytes.length < UInt64.size := by
    rw [h, size_eq]
    decide
  have hsize : bytes.length = 8 + blobSize + 48 + 48 + SignedBlockHeader.size + 17 * 32 := h
  obtain ⟨_, index, hindex, hcursor, hdrop₁⟩ :=
    Ssz.cutUInt64_cases small UInt64.toNat_zero (by omega)
  obtain ⟨_, blob, hblob, hcursor, hdrop₂⟩ := Ssz.cut_cases small hcursor blobSize (by omega)
  obtain ⟨_, kzgCommitment, hkzgCommitment, hcursor, hdrop₃⟩ :=
    Ssz.cut_cases small hcursor 48 (by omega)
  obtain ⟨_, kzgProof, hkzgProof, hcursor, hdrop₄⟩ := Ssz.cut_cases small hcursor 48 (by omega)
  obtain ⟨_, octets, hoctets, hcursor, hdrop₅⟩ :=
    Ssz.cut_cases small hcursor SignedBlockHeader.size (by omega)
  obtain ⟨_, inclusionProof, hinclusionProof, hcursor, hdrop₆⟩ :=
    Ssz.cutVector_cases small hcursor 32 17 (by omega)
  obtain ⟨signedBlockHeader, hheader, hwrite⟩ :=
    SignedBlockHeader.exists_ofSsz octets.length_toList
  refine ⟨⟨index, blob, kzgCommitment, kzgProof, signedBlockHeader, inclusionProof⟩, ?_, ?_⟩
  · refine (Ssz.bind_of_ok (Ssz.checkLength_eq_ok h) _).trans ?_
    refine (Ssz.bind_of_ok (Ssz.part_eq_ok hindex) _).trans ?_
    refine (Ssz.bind_of_ok (Ssz.part_eq_ok hblob) _).trans ?_
    refine (Ssz.bind_of_ok (Blob.ofBytes_toList blob) _).trans ?_
    refine (Ssz.bind_of_ok (Ssz.part_eq_ok hkzgCommitment) _).trans ?_
    refine (Ssz.bind_of_ok (Ssz.part_eq_ok hkzgProof) _).trans ?_
    refine (Ssz.bind_of_ok (Ssz.part_eq_ok hoctets) _).trans ?_
    refine (Ssz.bind_of_ok hheader _).trans ?_
    exact Ssz.bind_of_ok (Ssz.part_eq_ok hinclusionProof) _
  · have hend : bytes.drop (0 + 8 + blobSize + 48 + 48 + SignedBlockHeader.size + 17 * 32) = [] :=
      List.drop_eq_nil_of_le (by omega)
    rw [hdrop₂, hdrop₃, hdrop₄, hdrop₅, hdrop₆, hend, List.append_nil] at hdrop₁
    simp only [toSsz, hwrite, List.append_assoc]
    exact hdrop₁.symm

theorem isFixedSize : IsFixedSize "BlobSidecar" size toSsz ofSsz :=
  .of_exists_read length_toSsz toSsz_injective
    (fun _ h => Ssz.bind_of_error (Ssz.checkLength_eq_error h) _)
    (fun _ => exists_ofSsz)

end BlobSidecar

/-- **Serialized forms.** The serialized forms of checkpoints, block headers, signed block headers
and blob sidecars are the byte strings of one length each. Every such byte string is read without an
error, and any other one is refused for its length and for nothing else. -/
theorem serialized_forms :
    IsFixedSize "Checkpoint" Checkpoint.size Checkpoint.toSsz Checkpoint.ofSsz ∧
      IsFixedSize "BeaconBlockHeader" BlockHeader.size BlockHeader.toSsz BlockHeader.ofSsz ∧
      IsFixedSize "SignedBeaconBlockHeader" SignedBlockHeader.size SignedBlockHeader.toSsz
        SignedBlockHeader.ofSsz ∧
      IsFixedSize "BlobSidecar" BlobSidecar.size BlobSidecar.toSsz BlobSidecar.ofSsz :=
  ⟨Checkpoint.isFixedSize, BlockHeader.isFixedSize, SignedBlockHeader.isFixedSize,
    BlobSidecar.isFixedSize⟩

end Beacon
