import Beacon.Proofs.Merkle.Tree
import Beacon.Proofs.Ssz.FixedSize
import Mathlib.Data.Nat.Log

/-!
# Schemas

A schema says of what kind a serialized form is, and this alone gives a root to the bytes: a number
is a chunk, a byte string is the tree over its chunks, and a vector or a container is cut into its
parts and is the tree over their roots. `Schema.Governs` says that the bytes of a structure are read
and get the root of the structure in this way. So neither reading nor hashing can take one part of a
structure for another.

* `treeOver_eq`: the least tree with room for some leaves has the root that is found level by level;
* `root_toSsz` of each structure follows its schema through its serialized form;
* `schemas_govern` puts the four structures together.
-/

namespace Beacon

/-- What a serialized form consists of. -/
inductive Schema where
  /-- A number of 64 bits. -/
  | number
  /-- A byte string of a fixed length. -/
  | octets (count : Nat)
  /-- A fixed number of items of one kind, each with a tree of its own. -/
  | vector (item : Schema) (count : Nat)
  /-- Parts one after the other, each of its own kind. -/
  | container (parts : List Schema)

namespace Schema

mutual

/-- The number of octets. -/
def size : Schema → Nat
  | .number => 8
  | .octets count => count
  | .vector item count => count * item.size
  | .container parts => totalSize parts

/-- The number of octets of some parts together. -/
def totalSize : List Schema → Nat
  | [] => 0
  | part :: rest => part.size + totalSize rest

end

section

variable (join : Digest → Digest → Digest)

/-- The root of the least tree with room for some leaves, with zeros past the last one. -/
def treeOver (leaves : List Digest) : Digest :=
  Merkle.node join (Merkle.leafAt leaves) (Nat.clog 2 leaves.length) 0

mutual

/-- The root that a schema gives to bytes. -/
def root : Schema → Bytes → Digest
  | .number, bytes => Merkle.chunkAt bytes 0
  | .octets count, bytes =>
    treeOver join ((List.range (Merkle.chunkCount count)).map (Merkle.chunkAt bytes))
  | .vector item count, bytes =>
    treeOver join ((List.range count).map fun i => item.root (Bytes.piece item.size bytes i))
  | .container parts, bytes => treeOver join (partRoots parts bytes)

/-- The roots of some parts, each being cut off in front of those after it. -/
def partRoots : List Schema → Bytes → List Digest
  | [], _ => []
  | part :: rest, bytes =>
    part.root (bytes.take part.size) :: partRoots rest (bytes.drop part.size)

end

end

/-! ### Roots of parts -/

theorem depth_eq_clog (count : Nat) : Merkle.depth count = Nat.clog 2 count := by
  obtain ⟨hroom, hleast⟩ := Merkle.isLeast_depth count
  apply Nat.le_antisymm
  · exact hleast (Nat.le_pow_clog (by decide) count)
  · exact Nat.clog_le_of_le_pow hroom

variable (join : Digest → Digest → Digest)

/-- The least tree over some leaves has the root that is found level by level. -/
theorem treeOver_eq (leaves : List Digest) : treeOver join leaves = Merkle.root join leaves := by
  rw [treeOver, ← depth_eq_clog, Merkle.root_eq]

theorem root_number (n : UInt64) :
    root join .number (ByteVector.ofUInt64 n).toList = Merkle.leaf n := by
  have hpiece : Bytes.piece 32 (ByteVector.ofUInt64 n).toList 0 =
      (ByteVector.ofUInt64 n).toList := by
    apply List.take_of_length_le
    simp
  rw [root, ← Merkle.padded_piece, hpiece, Merkle.leaf]

theorem root_octets {n : Nat} (v : ByteVector n) :
    root join (.octets n) v.toList = Merkle.bytesRoot join v.toList := by
  rw [root, treeOver_eq, Merkle.bytesRoot, Merkle.chunks_eq, v.length_toList]

/-- A digest is its own root. -/
theorem root_digest (d : Digest) : root join (.octets 32) d.toList = d := by
  have hchunk : Merkle.chunkAt d.toList 0 = d := by
    ext1
    refine List.ext_getElem (by simp) fun j hj hd => ?_
    simp [Merkle.chunkAt, List.getElem?_eq_getElem hd]
  show Merkle.chunkAt d.toList 0 = d
  exact hchunk

/-- Pieces of the sizes of some parts are cut off one by one, as they were put together. -/
theorem partRoots_flatten {parts : List Schema} {pieces : List Bytes}
    (h : pieces.map List.length = parts.map size) :
    partRoots join parts pieces.flatten = List.zipWith (root join) parts pieces := by
  induction parts generalizing pieces with
  | nil =>
    rw [partRoots, List.zipWith_nil_left]
  | cons part parts ih =>
    cases pieces with
    | nil => simp at h
    | cons piece pieces =>
      rw [List.map_cons, List.map_cons, List.cons.injEq] at h
      rw [List.flatten_cons, partRoots, ← h.1, List.take_left, List.drop_left, ih h.2,
        List.zipWith_cons_cons]

/-- A container is the tree over the roots of its parts. -/
theorem root_container {parts : List Schema} {pieces : List Bytes}
    (h : pieces.map List.length = parts.map size) :
    root join (.container parts) pieces.flatten =
      Merkle.root join (List.zipWith (root join) parts pieces) := by
  rw [root, partRoots_flatten join h, treeOver_eq]

/-- A piece of digests that stand one after the other is one of them. -/
theorem piece_flatMap_toList {n : Nat} (pieces : List (ByteVector n)) {i : Nat}
    (h : i < pieces.length) :
    Bytes.piece n (pieces.flatMap ByteVector.toList) i = pieces[i].toList := by
  induction pieces generalizing i with
  | nil => simp at h
  | cons v rest ih =>
    rw [List.flatMap_cons]
    cases i with
    | zero => simp [Bytes.piece]
    | succ i =>
      have hdrop : (v.toList ++ rest.flatMap ByteVector.toList).drop n =
          rest.flatMap ByteVector.toList := by simp
      rw [← Bytes.piece_drop, hdrop, ih (Nat.lt_of_succ_lt_succ h), List.getElem_cons_succ]

/-- A vector of digests is the tree over them. -/
theorem root_digests {count : Nat} (digests : Vector Digest count) :
    root join (.vector (.octets 32) count) (digests.toList.flatMap ByteVector.toList) =
      Merkle.root join digests.toList := by
  have hitems : (List.range count).map (fun i => root join (.octets 32)
      (Bytes.piece 32 (digests.toList.flatMap ByteVector.toList) i)) = digests.toList := by
    refine List.ext_getElem (by simp) fun i hi hi' => ?_
    rw [List.getElem_map, List.getElem_range, piece_flatMap_toList _ hi', root_digest]
  show treeOver join _ = _
  rw [treeOver_eq]
  exact congrArg (Merkle.root join) hitems

/-! ### Structures -/

/-- A schema governs a structure of some length if all bytes of that length can be read, and what
is read has the root that the schema gives to the bytes. -/
structure Governs {α : Type} (schema : Schema) (size : Nat) (read : Bytes → Except DataError α)
    (treeRoot : (Digest → Digest → Digest) → α → Digest) : Prop where
  /-- The parts fill the length. -/
  size_eq : schema.size = size
  /-- Reading and hashing agree on what the parts are. -/
  exists_read : ∀ bytes, bytes.length = size →
    ∃ x, read bytes = .ok x ∧ ∀ join, treeRoot join x = schema.root join bytes

/-- It is enough to look at what is written. -/
theorem Governs.of_root_write {α : Type} {schema : Schema} {structureName : String} {size : Nat}
    {write : α → Bytes} {read : Bytes → Except DataError α}
    {treeRoot : (Digest → Digest → Digest) → α → Digest} (size_eq : schema.size = size)
    (fixed : IsFixedSize structureName size write read)
    (root_write : ∀ join x, schema.root join (write x) = treeRoot join x) :
    schema.Governs size read treeRoot := by
  refine ⟨size_eq, fun bytes h => ?_⟩
  obtain ⟨x, hread⟩ := (fixed.exists_read_iff bytes).2 h
  refine ⟨x, hread, fun join => ?_⟩
  rw [← root_write, fixed.write_of_read bytes x hread]

end Schema

open Schema

variable (join : Digest → Digest → Digest)

/-- An epoch and a root. -/
def Checkpoint.schema : Schema := .container [.number, .octets 32]

/-- Two numbers and three roots. -/
def BlockHeader.schema : Schema :=
  .container [.number, .number, .octets 32, .octets 32, .octets 32]

/-- A header and a signature. -/
def SignedBlockHeader.schema : Schema := .container [BlockHeader.schema, .octets 96]

/-- A number, a blob, a commitment with its proof, a signed header and the roots of a proof. -/
def BlobSidecar.schema : Schema :=
  .container [.number, .octets 131072, .octets 48, .octets 48, SignedBlockHeader.schema,
    .vector (.octets 32) 17]

theorem Checkpoint.root_toSsz (c : Checkpoint) : schema.root join c.toSsz = c.treeRoot join := by
  have hpieces : c.toSsz = [(ByteVector.ofUInt64 c.epoch).toList, c.root.toList].flatten := by
    simp [toSsz]
  rw [hpieces, schema, root_container join (by simp [Schema.size])]
  simp only [List.zipWith_cons_cons, List.zipWith_nil_left, root_number, root_digest]
  rfl

theorem BlockHeader.root_toSsz (h : BlockHeader) : schema.root join h.toSsz = h.treeRoot join := by
  have hpieces : h.toSsz = [(ByteVector.ofUInt64 h.slot).toList,
      (ByteVector.ofUInt64 h.proposerIndex).toList, h.parentRoot.toList, h.stateRoot.toList,
      h.bodyRoot.toList].flatten := by
    simp [toSsz]
  rw [hpieces, schema, root_container join (by simp [Schema.size])]
  simp only [List.zipWith_cons_cons, List.zipWith_nil_left, root_number, root_digest]
  rfl

theorem BlockHeader.size_schema : schema.size = size := by decide

theorem SignedBlockHeader.root_toSsz (h : SignedBlockHeader) :
    schema.root join h.toSsz = h.treeRoot join := by
  have hpieces : h.toSsz = [h.message.toSsz, h.signature.toList].flatten := by
    simp [toSsz]
  rw [hpieces, schema, root_container join
    (by simp [Schema.size, BlockHeader.length_toSsz, BlockHeader.size_schema])]
  simp only [List.zipWith_cons_cons, List.zipWith_nil_left, BlockHeader.root_toSsz, root_octets]
  rfl

theorem SignedBlockHeader.size_schema : schema.size = size := by decide

theorem BlobSidecar.root_toSsz (s : BlobSidecar) : schema.root join s.toSsz = s.treeRoot join := by
  have hpieces : s.toSsz = [(ByteVector.ofUInt64 s.index).toList, s.blob.toList,
      s.kzgCommitment.toList, s.kzgProof.toList, s.signedBlockHeader.toSsz,
      s.inclusionProof.toList.flatMap ByteVector.toList].flatten := by
    simp [toSsz]
  have hsizes : [(ByteVector.ofUInt64 s.index).toList, s.blob.toList,
      s.kzgCommitment.toList, s.kzgProof.toList, s.signedBlockHeader.toSsz,
      s.inclusionProof.toList.flatMap ByteVector.toList].map List.length =
      [.number, .octets blobSize, .octets 48, .octets 48, SignedBlockHeader.schema,
        .vector (.octets 32) 17].map Schema.size := by
    simp only [List.map_cons, List.map_nil, ByteVector.length_toList, Schema.size,
      SignedBlockHeader.length_toSsz, SignedBlockHeader.size_schema,
      ByteVector.length_flatMap_toList, Vector.length_toList]
  have hroots := root_container join hsizes
  simp only [List.zipWith_cons_cons, List.zipWith_nil_left, root_number, root_octets,
    SignedBlockHeader.root_toSsz, root_digests] at hroots
  rw [hpieces]
  exact hroots

theorem BlobSidecar.size_schema : schema.size = size := by decide

/-- **Schemas.** Checkpoints, block headers, signed block headers and blob sidecars are read and
hashed by one schema each: whatever the hash of a pair is, all bytes of the right length are read,
and what is read has the root that the schema alone gives to these bytes. -/
theorem schemas_govern :
    Checkpoint.schema.Governs Checkpoint.size Checkpoint.ofSsz Checkpoint.treeRoot ∧
      BlockHeader.schema.Governs BlockHeader.size BlockHeader.ofSsz BlockHeader.treeRoot ∧
      SignedBlockHeader.schema.Governs SignedBlockHeader.size SignedBlockHeader.ofSsz
        SignedBlockHeader.treeRoot ∧
      BlobSidecar.schema.Governs BlobSidecar.size BlobSidecar.ofSsz BlobSidecar.treeRoot :=
  ⟨.of_root_write rfl Checkpoint.isFixedSize Checkpoint.root_toSsz,
    .of_root_write BlockHeader.size_schema BlockHeader.isFixedSize BlockHeader.root_toSsz,
    .of_root_write SignedBlockHeader.size_schema SignedBlockHeader.isFixedSize
      SignedBlockHeader.root_toSsz,
    .of_root_write BlobSidecar.size_schema BlobSidecar.isFixedSize BlobSidecar.root_toSsz⟩

/-- The bytes from 0 to 39 are a checkpoint. Its epoch and its root are the leaves of its tree. -/
theorem schemas_govern_checkpoint :
    ∃ c, Checkpoint.ofSsz ((List.range 40).map Nat.toUInt8) = .ok c ∧
      c.treeRoot Sha256.pair =
        Sha256.pair (ByteVector.padded 32 ((List.range 8).map Nat.toUInt8))
          ⟨(List.range' 8 32).map Nat.toUInt8, by simp⟩ := by
  obtain ⟨c, hread, hroot⟩ :=
    schemas_govern.1.exists_read ((List.range 40).map Nat.toUInt8) rfl
  refine ⟨c, hread, ?_⟩
  rw [hroot]
  rfl

end Beacon
