import Beacon.Proofs.Merkle.Binding
import Beacon.Proofs.Ssz.FixedSize
import Mathlib.Algebra.Free

/-!
# Roots of structures bind their values

Two checkpoints with the same root are the same, unless two different pairs of nodes with the same
join were met while the two roots were computed; so it is with block headers, signed block headers,
blob sidecars, and lists of leaves of one length. `IsBinding` says so of the root of a type, by way
of the same root over nodes of any kind. The `tree` of each structure is that root: the parts with
trees of their own come first, then the tree over all parts.
-/

namespace Beacon

open Merkle Traced

/-! ### Trees over nodes of any kind -/

section

variable {H : Type} (nodes : Nodes H)

/-- The root of a checkpoint. -/
def Checkpoint.tree (c : Checkpoint) : Traced H H :=
  nodes.digestsRoot [leaf c.epoch, c.root]

/-- The root of a block header. -/
def BlockHeader.tree (h : BlockHeader) : Traced H H :=
  nodes.digestsRoot [leaf h.slot, leaf h.proposerIndex, h.parentRoot, h.stateRoot, h.bodyRoot]

/-- The root of a signed block header. -/
def SignedBlockHeader.tree (h : SignedBlockHeader) : Traced H H :=
  nodes.container [h.message.tree nodes, nodes.bytesRoot h.signature.toList]

/-- The root of a blob sidecar. -/
def BlobSidecar.tree (s : BlobSidecar) : Traced H H :=
  nodes.container
    [pure (nodes.ofDigest (leaf s.index)), nodes.bytesRoot s.blob.toList,
      nodes.bytesRoot s.kzgCommitment.toList, nodes.bytesRoot s.kzgProof.toList,
      s.signedBlockHeader.tree nodes, nodes.digestsRoot s.inclusionProof.toList]

end

/-- The root of values of a type binds them. The root over nodes of any kind is the root itself
where digests are the nodes. Two values with one root are the same, or else two of the pairs that
were joined for the two roots differ and have one join; `Nodes.mem_pairs_root` says which pairs are
joined for a root. Where nodes are joined without loss, so that they are more than digests, the root
is injective. -/
structure IsBinding {α : Type} (tree : {H : Type} → Nodes H → α → Traced H H)
    (root : (Digest → Digest → Digest) → α → Digest) : Prop where
  /-- The pairs are noted while the root is computed. -/
  value_eq : ∀ join x, (tree (.digests join) x).value = root join x
  /-- Different values with one root are a collision that was met. -/
  eq_or_collides : ∀ join x y, root join x = root join y →
    x = y ∨ Collides join ((tree (.digests join) x).pairs ++ (tree (.digests join) y).pairs)
  /-- Without loss different values have different roots. -/
  injective : ∀ (H : Type) (nodes : Nodes H), Function.Injective nodes.ofDigest →
    Function.Injective2 nodes.join → Function.Injective fun x => (tree nodes x).value

/-- It is enough that the root over nodes of any kind tells its value. -/
theorem IsBinding.of_reveals {α : Type} {tree : {H : Type} → Nodes H → α → Traced H H}
    {root : (Digest → Digest → Digest) → α → Digest}
    (value_eq : ∀ join x, (tree (.digests join) x).value = root join x)
    (reveals : ∀ (H : Type) (nodes : Nodes H), Function.Injective nodes.ofDigest → ∀ x y,
      (tree nodes x).value = (tree nodes y).value →
        Reveals nodes.join (tree nodes x) (tree nodes y) (x = y)) :
    IsBinding tree root := by
  refine ⟨value_eq, fun join x y h => ?_, fun H nodes faithful lossless x y h => ?_⟩
  · rw [← value_eq, ← value_eq] at h
    exact reveals Digest (.digests join) Function.injective_id x y h
  · rcases reveals H nodes faithful x y h with heq | collides
    · exact heq
    · exact absurd collides (not_collides lossless _)

/-! ### Values of trees -/

theorem Merkle.leaf_injective : Function.Injective leaf := by
  intro n n' h
  have htake (v : ByteVector 8) : (ByteVector.padded 32 v.toList).toList.take 8 = v.toList := by
    simp [ByteVector.padded, List.take_of_length_le]
  have hlist := congrArg (fun d : Digest => d.toList.take 8) h
  simp only [leaf, htake] at hlist
  exact ByteVector.ofUInt64_injective (ByteVector.ext hlist)

section

variable {H : Type} {nodes : Nodes H} (faithful : Function.Injective nodes.ofDigest)

include faithful

theorem Checkpoint.tree_reveals {c c' : Checkpoint}
    (h : (c.tree nodes).value = (c'.tree nodes).value) :
    Reveals nodes.join (c.tree nodes) (c'.tree nodes) (c = c') := by
  obtain ⟨epoch, root⟩ := c
  obtain ⟨epoch', root'⟩ := c'
  refine (nodes.digestsRoot_reveals faithful ?_ h).mono fun hleaves => ?_
  · rfl
  · simp only [List.cons.injEq, and_true] at hleaves
    obtain ⟨hepoch, rfl⟩ := hleaves
    cases leaf_injective hepoch
    rfl

theorem BlockHeader.tree_reveals {h h' : BlockHeader}
    (heq : (h.tree nodes).value = (h'.tree nodes).value) :
    Reveals nodes.join (h.tree nodes) (h'.tree nodes) (h = h') := by
  obtain ⟨slot, proposerIndex, parentRoot, stateRoot, bodyRoot⟩ := h
  obtain ⟨slot', proposerIndex', parentRoot', stateRoot', bodyRoot'⟩ := h'
  refine (nodes.digestsRoot_reveals faithful ?_ heq).mono fun hleaves => ?_
  · rfl
  · simp only [List.cons.injEq, and_true] at hleaves
    obtain ⟨hslot, hproposerIndex, rfl, rfl, rfl⟩ := hleaves
    cases leaf_injective hslot
    cases leaf_injective hproposerIndex
    rfl

theorem SignedBlockHeader.tree_reveals {h h' : SignedBlockHeader}
    (heq : (h.tree nodes).value = (h'.tree nodes).value) :
    Reveals nodes.join (h.tree nodes) (h'.tree nodes) (h = h') := by
  obtain ⟨message, signature⟩ := h
  obtain ⟨message', signature'⟩ := h'
  refine nodes.container_reveals ?_ heq fun hroots => ?_
  · rfl
  · simp only [List.map_cons, List.map_nil, List.cons.injEq, and_true] at hroots
    have hmessage := BlockHeader.tree_reveals faithful hroots.1
    have hsignature := nodes.bytesRoot_reveals faithful (by simp) hroots.2
    refine (all_reveals_cons hmessage (all_reveals_cons hsignature all_reveals_nil)).mono ?_
    rintro ⟨rfl, hsignature, -⟩
    cases ByteVector.ext hsignature
    rfl

theorem BlobSidecar.tree_reveals {s s' : BlobSidecar}
    (heq : (s.tree nodes).value = (s'.tree nodes).value) :
    Reveals nodes.join (s.tree nodes) (s'.tree nodes) (s = s') := by
  obtain ⟨index, blob, kzgCommitment, kzgProof, signedBlockHeader, inclusionProof⟩ := s
  obtain ⟨index', blob', kzgCommitment', kzgProof', signedBlockHeader', inclusionProof'⟩ := s'
  refine nodes.container_reveals ?_ heq fun hroots => ?_
  · rfl
  · simp only [List.map_cons, List.map_nil, List.cons.injEq, and_true, value_pure] at hroots
    obtain ⟨hindex, hblob, hkzgCommitment, hkzgProof, hsignedBlockHeader, hinclusionProof⟩ := hroots
    cases leaf_injective (faithful hindex)
    have hblob := nodes.bytesRoot_reveals faithful (by simp) hblob
    have hkzgCommitment := nodes.bytesRoot_reveals faithful (by simp) hkzgCommitment
    have hkzgProof := nodes.bytesRoot_reveals faithful (by simp) hkzgProof
    have hsignedBlockHeader := SignedBlockHeader.tree_reveals faithful hsignedBlockHeader
    have hinclusionProof := nodes.digestsRoot_reveals faithful (by simp) hinclusionProof
    refine (all_reveals_cons (reveals_pure trivial) <| all_reveals_cons hblob <|
      all_reveals_cons hkzgCommitment <| all_reveals_cons hkzgProof <|
      all_reveals_cons hsignedBlockHeader <| all_reveals_cons hinclusionProof
        all_reveals_nil).mono ?_
    rintro ⟨-, hblob, hkzgCommitment, hkzgProof, rfl, hinclusionProof, -⟩
    cases ByteVector.ext hblob
    cases ByteVector.ext hkzgCommitment
    cases ByteVector.ext hkzgProof
    cases Vector.toList_inj.1 hinclusionProof
    rfl

end

/-! ### Roots -/

/-- **Binding.** Lists of leaves of one length, checkpoints, block headers, signed block headers and
blob sidecars are bound by their roots, whatever the hash of a pair is. -/
theorem roots_bind :
    (∀ n, IsBinding
      (fun nodes (leaves : {leaves : List Digest // leaves.length = n}) =>
        nodes.digestsRoot leaves.1)
      (fun join leaves => Merkle.root join leaves.1)) ∧
      IsBinding Checkpoint.tree Checkpoint.treeRoot ∧
      IsBinding BlockHeader.tree BlockHeader.treeRoot ∧
      IsBinding SignedBlockHeader.tree SignedBlockHeader.treeRoot ∧
      IsBinding BlobSidecar.tree BlobSidecar.treeRoot := by
  have hheader (join) (h : BlockHeader) : (h.tree (.digests join)).value = h.treeRoot join :=
    Nodes.value_digestsRoot join _
  have hsigned (join) (h : SignedBlockHeader) :
      (h.tree (.digests join)).value = h.treeRoot join := by
    rw [SignedBlockHeader.tree, Nodes.value_container, SignedBlockHeader.treeRoot]
    simp only [List.map_cons, List.map_nil, hheader, Nodes.value_bytesRoot]
  refine ⟨fun n => .of_reveals (fun join leaves => Nodes.value_digestsRoot join leaves.1)
      fun H nodes faithful leaves leaves' h => ?_,
    .of_reveals (fun join c => Nodes.value_digestsRoot join _) fun H nodes faithful c c' =>
      Checkpoint.tree_reveals faithful,
    .of_reveals hheader fun H nodes faithful h h' => BlockHeader.tree_reveals faithful,
    .of_reveals hsigned fun H nodes faithful h h' => SignedBlockHeader.tree_reveals faithful,
    .of_reveals (fun join s => ?_) fun H nodes faithful s s' => BlobSidecar.tree_reveals faithful⟩
  · have hlen : leaves.1.length = leaves'.1.length := leaves.2.trans leaves'.2.symm
    exact (nodes.digestsRoot_reveals faithful hlen h).mono Subtype.ext
  · rw [BlobSidecar.tree, Nodes.value_container, BlobSidecar.treeRoot]
    simp only [List.map_cons, List.map_nil, hsigned, Nodes.value_bytesRoot, Nodes.value_digestsRoot,
      value_pure]
    rfl

/-- Where a pair keeps its left node alone, two checkpoints of one epoch have one root, and pairs
with one join are met. Where pairs are kept whole, sidecars have different roots. -/
theorem roots_bind_lossy_and_lossless :
    Collides (fun x _ => x)
        ((Checkpoint.tree (.digests fun x _ => x) ⟨1, leaf 2⟩).pairs ++
          (Checkpoint.tree (.digests fun x _ => x) ⟨1, leaf 3⟩).pairs) ∧
      Function.Injective fun s : BlobSidecar =>
        (s.tree (⟨FreeMagma.of, FreeMagma.mul⟩ : Nodes (FreeMagma Digest))).value := by
  obtain ⟨-, hcheckpoint, -, -, hsidecar⟩ := roots_bind
  constructor
  · rcases hcheckpoint.eq_or_collides (fun x _ => x) ⟨1, leaf 2⟩ ⟨1, leaf 3⟩ rfl with heq | collides
    · exact absurd heq (by decide)
    · exact collides
  · refine hsidecar.injective _ _ (fun x y h => ?_) fun x x' y y' h => ?_
    · cases h
      rfl
    · cases h
      exact ⟨rfl, rfl⟩

end Beacon
