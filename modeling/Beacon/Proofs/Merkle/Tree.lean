import Beacon.Hash.Sha256
import Beacon.Merkle.Root
import Beacon.Proofs.Bytes.Pieces
import Mathlib.Order.Bounds.Defs
import Mathlib.Algebra.Group.Nat.Defs

/-!
# Roots as trees

The root over a list of leaves is found level by level. `node` is the tree itself: a leaf at depth
zero, and the join of two nodes above. `Collapses` is the loop over the levels with all that it asks
for, that is, another turn as long as there are several nodes, each with a neighbour.

* `collapse_range`: a level holds the nodes of one depth, half as many as the level below;
* `isLeast_depth`: the depth of the tree is the least one with room for the leaves;
* `root_eq_node`: roots of leaves and roots of byte strings are nodes of such trees.
-/

namespace Beacon.Merkle

/-- A node of the tree over some leaves, by the levels below it and its place among them. -/
def node (join : Digest → Digest → Digest) (leaf : Nat → Digest) : (height i : Nat) → Digest
  | 0, i => leaf i
  | height + 1, i => join (node join leaf height (2 * i)) (node join leaf height (2 * i + 1))

/-- The leaf with a number; zeros past the end. -/
def leafAt (leaves : List Digest) (i : Nat) : Digest := leaves[i]?.getD (ByteVector.zero 32)

/-- The chunk with a number: 32 octets of a byte string, with zeros past the end. -/
def chunkAt (bytes : Bytes) (i : Nat) : Digest :=
  ⟨(List.range 32).map fun j => bytes[32 * i + j]?.getD 0, by simp⟩

/-- Neighbours are joined, each node having one. -/
inductive Pairs (join : Digest → Digest → Digest) : List Digest → List Digest → Prop
  | nil : Pairs join [] []
  | cons {x y : Digest} {rest joined : List Digest} (pairs : Pairs join rest joined) :
      Pairs join (x :: y :: rest) (join x y :: joined)

/-- Neighbours are joined as long as there are several nodes, until a single one is left. -/
inductive Collapses (join : Digest → Digest → Digest) : List Digest → Digest → Prop
  | single (x : Digest) : Collapses join [x] x
  | level {nodes joined : List Digest} {x : Digest} (several : 1 < nodes.length)
      (pairs : Pairs join nodes joined) (rest : Collapses join joined x) : Collapses join nodes x

/-- A digest is the root of the least tree with room for so many leaves. -/
def IsRoot (join : Digest → Digest → Digest) (leaf : Nat → Digest) (count : Nat)
    (root : Digest) : Prop :=
  ∃ height, IsLeast {d | count ≤ 2 ^ d} height ∧ root = node join leaf height 0

section

variable (join : Digest → Digest → Digest)

/-! ### Levels -/

/-- The first `2 * m` values of a function, two by two. -/
theorem map_range_two_mul (f : Nat → Digest) (m : Nat) :
    (List.range (2 * (m + 1))).map f =
      f 0 :: f 1 :: (List.range (2 * m)).map fun i => f (i + 2) := by
  rw [Nat.mul_add_one, List.range_succ_eq_map, List.range_succ_eq_map]
  simp [Function.comp_def]

theorem pairs_range (f : Nat → Digest) (m : Nat) :
    Pairs join ((List.range (2 * m)).map f)
      ((List.range m).map fun i => join (f (2 * i)) (f (2 * i + 1))) := by
  induction m generalizing f with
  | zero => exact .nil
  | succ m ih =>
    rw [map_range_two_mul, List.range_succ_eq_map, List.map_cons, List.map_map]
    exact .cons (ih fun i => f (i + 2))

/-- Where each node has a neighbour, a level is its pairs. -/
theorem level_of_pairs {nodes joined : List Digest} (pairs : Pairs join nodes joined) :
    level join nodes = joined := by
  induction pairs with
  | nil => rfl
  | cons pairs ih => rw [level, ih]

variable (leaf : Nat → Digest)

/-- Joining the nodes of one height in pairs gives the nodes of the next one. -/
theorem pairs_nodes (height m : Nat) :
    Pairs join ((List.range (2 * m)).map (node join leaf height))
      ((List.range m).map (node join leaf (height + 1))) :=
  pairs_range join (node join leaf height) m

/-- After `turns` turns over full levels there are the nodes that many levels higher. -/
theorem collapse_range (turns height m : Nat) :
    collapse join turns ((List.range (2 ^ turns * m)).map (node join leaf height)) =
      (List.range m).map (node join leaf (height + turns)) := by
  induction turns generalizing height with
  | zero => simp [collapse]
  | succ turns ih =>
    rw [Nat.pow_succ', Nat.mul_assoc, collapse,
      level_of_pairs join (pairs_nodes join leaf height _), ih, Nat.add_assoc, Nat.add_comm 1]

/-- The loop over full levels comes to its end, at the node on top. -/
theorem collapses_range (turns height : Nat) :
    Collapses join ((List.range (2 ^ turns)).map (node join leaf height))
      (node join leaf (height + turns) 0) := by
  induction turns generalizing height with
  | zero => exact .single _
  | succ turns ih =>
    have hpos : 0 < 2 ^ turns := Nat.two_pow_pos turns
    rw [Nat.pow_succ']
    refine .level (by simp; omega) (pairs_nodes join leaf height _) ?_
    rw [← Nat.add_assoc, Nat.add_right_comm]
    exact ih (height + 1)

end

/-! ### The size of the tree -/

/-- The depth is the least one with room for the leaves. -/
theorem isLeast_depth (count : Nat) : IsLeast {d | count ≤ 2 ^ d} (depth count) := by
  unfold depth
  split
  · next h => exact ⟨h, fun d _ => Nat.zero_le d⟩
  · next h =>
    constructor
    · have hlt : count - 1 < 2 ^ ((count - 1).log2 + 1) := Nat.lt_log2_self
      show count ≤ 2 ^ ((count - 1).log2 + 1)
      omega
    · intro d hd
      have hle : 2 ^ (count - 1).log2 ≤ count - 1 := Nat.log2_self_le (by omega)
      have hlt : 2 ^ (count - 1).log2 < 2 ^ d := by
        have : count ≤ 2 ^ d := hd
        omega
      exact (Nat.pow_lt_pow_iff_right (by omega)).1 hlt

/-- The leaves with the zeros that fill them up, by their numbers. -/
theorem fill_eq (leaves : List Digest) :
    fill leaves = (List.range (2 ^ depth leaves.length)).map (leafAt leaves) := by
  have hle : leaves.length ≤ 2 ^ depth leaves.length := (isLeast_depth leaves.length).1
  have hlen : (fill leaves).length = 2 ^ depth leaves.length := by
    rw [fill, List.length_append, List.length_replicate]
    exact Nat.add_sub_cancel' hle
  refine List.ext_getElem (by simpa using hlen) fun i hi _ => ?_
  rw [List.getElem_map, List.getElem_range, leafAt]
  simp only [fill]
  by_cases h : i < leaves.length
  · rw [List.getElem_append_left h, List.getElem?_eq_getElem h, Option.getD_some]
  · rw [List.getElem_append_right (by omega), List.getElem_replicate,
      List.getElem?_eq_none (by omega), Option.getD_none]

/-- The levels of the loop, up to the root: each holds a power of two of nodes. -/
theorem collapse_fill (join : Digest → Digest → Digest) (leaves : List Digest) {turns : Nat}
    (h : turns ≤ depth leaves.length) :
    collapse join turns (fill leaves) =
      (List.range (2 ^ (depth leaves.length - turns))).map (node join (leafAt leaves) turns) := by
  have hpow : 2 ^ depth leaves.length = 2 ^ turns * 2 ^ (depth leaves.length - turns) := by
    rw [← Nat.pow_add, Nat.add_sub_cancel' h]
  have hcollapse := collapse_range join (leafAt leaves) turns 0 (2 ^ (depth leaves.length - turns))
  rw [Nat.zero_add, ← hpow] at hcollapse
  rw [fill_eq]
  exact hcollapse

theorem root_eq (join : Digest → Digest → Digest) (leaves : List Digest) :
    root join leaves = node join (leafAt leaves) (depth leaves.length) 0 := by
  rw [root, collapse_fill join leaves (Nat.le_refl _), Nat.sub_self]
  rfl

/-! ### Chunks -/

/-- The number of chunks of a byte string; there is always one. -/
def chunkCount (length : Nat) : Nat := max 1 (Bytes.pieceCount 32 length)

theorem padded_piece (bytes : Bytes) (i : Nat) :
    ByteVector.padded 32 (Bytes.piece 32 bytes i) = chunkAt bytes i := by
  ext1
  refine List.ext_getElem (by simp) fun j hj _ => ?_
  have hj : j < 32 := by simpa using hj
  simp only [chunkAt, List.getElem_map, List.getElem_range]
  have hpiece : (Bytes.piece 32 bytes i)[j]? = bytes[32 * i + j]? := by
    rw [Bytes.piece, List.getElem?_take_of_lt hj, List.getElem?_drop]
  simp only [ByteVector.padded]
  by_cases h : j < (Bytes.piece 32 bytes i).length
  · rw [List.getElem_append_left (by simp; omega), List.getElem_take, ← hpiece,
      List.getElem?_eq_getElem h, Option.getD_some]
  · rw [List.getElem_append_right (by simp; omega), List.getElem_replicate, ← hpiece,
      List.getElem?_eq_none (by omega), Option.getD_none]

theorem chunks_eq (bytes : Bytes) :
    chunks bytes = (List.range (chunkCount bytes.length)).map (chunkAt bytes) := by
  have hpieces := Bytes.pieces_eq (by decide : 0 < 32) bytes
  unfold chunks
  split
  · next hnil =>
    -- no pieces: there are no bytes, and the only chunk is all zeros
    have hcount : Bytes.pieceCount 32 bytes.length = 0 := by simpa [hnil] using hpieces.symm
    have hbytes : bytes = [] := by
      rw [← List.length_eq_zero_iff]
      unfold Bytes.pieceCount at hcount
      omega
    rw [chunkCount, hcount, hbytes]
    rfl
  · next hne =>
    have hcount : Bytes.pieceCount 32 bytes.length ≠ 0 := by
      intro hzero
      rw [hzero] at hpieces
      exact hne hpieces
    rw [hpieces, List.map_map, chunkCount, Nat.max_eq_right (by omega)]
    exact List.map_congr_left fun i _ => padded_piece bytes i

/-- A byte string has nothing but zeros past its chunks. -/
theorem leafAt_chunks (bytes : Bytes) : leafAt (chunks bytes) = chunkAt bytes := by
  funext i
  rw [leafAt, chunks_eq, List.getElem?_map]
  by_cases h : i < chunkCount bytes.length
  · rw [List.getElem?_range h, Option.map_some, Option.getD_some]
  · have hpast (j : Nat) : bytes[32 * i + j]? = none := by
      refine List.getElem?_eq_none ?_
      unfold chunkCount Bytes.pieceCount at h
      omega
    rw [List.getElem?_eq_none (by simpa using h), Option.map_none, Option.getD_none]
    ext1
    simp only [chunkAt, hpast, Option.getD_none, List.map_const', List.length_range,
      ByteVector.zero]

/-! ### Roots -/

/-- **Roots are trees.** Whatever the hash of a pair is, the loop over the levels of a list of
leaves joins only nodes that have a neighbour, halves a power of two in each turn, and comes to its
end at the root, which is the root of the least tree with room for the leaves. The root of a byte
string is the one over its chunks. -/
theorem root_eq_node (join : Digest → Digest → Digest) :
    (∀ leaves : List Digest,
      IsRoot join (leafAt leaves) leaves.length (root join leaves) ∧
        Collapses join (fill leaves) (root join leaves) ∧
        ∀ turns ≤ depth leaves.length, (collapse join turns (fill leaves)).length =
          2 ^ (depth leaves.length - turns)) ∧
      ∀ bytes : Bytes,
        bytesRoot join bytes =
            root join ((List.range (chunkCount bytes.length)).map (chunkAt bytes)) ∧
          IsRoot join (chunkAt bytes) (chunkCount bytes.length) (bytesRoot join bytes) := by
  refine ⟨fun leaves => ⟨⟨_, isLeast_depth _, root_eq join leaves⟩, ?_, fun turns h => ?_⟩,
    fun bytes => ⟨by rw [bytesRoot, chunks_eq], depth (chunkCount bytes.length),
      isLeast_depth _, ?_⟩⟩
  · have hloop := collapses_range join (leafAt leaves) (depth leaves.length) 0
    rw [Nat.zero_add, ← root_eq join leaves] at hloop
    rw [fill_eq]
    exact hloop
  · rw [collapse_fill join leaves h, List.length_map, List.length_range]
  · have hlen : (chunks bytes).length = chunkCount bytes.length := by
      rw [chunks_eq, List.length_map, List.length_range]
    rw [bytesRoot, root_eq, hlen, leafAt_chunks]

/-- Over three leaves a single node is left after two turns, and the fourth leaf is zeros. -/
theorem root_eq_node_triple :
    2 ≤ depth [leaf 1, leaf 2, leaf 3].length ∧
      (collapse Sha256.pair 2 (fill [leaf 1, leaf 2, leaf 3])).length = 1 ∧
      root Sha256.pair [leaf 1, leaf 2, leaf 3] =
        Sha256.pair (Sha256.pair (leaf 1) (leaf 2))
          (Sha256.pair (leaf 3) (ByteVector.zero 32)) := by
  obtain ⟨⟨height, hleast, hroot⟩, -, hlevels⟩ :=
    (root_eq_node Sha256.pair).1 [leaf 1, leaf 2, leaf 3]
  have htwo : IsLeast {d | 3 ≤ 2 ^ d} 2 := by
    refine ⟨show 3 ≤ 2 ^ 2 by decide, fun d hd => ?_⟩
    change 3 ≤ 2 ^ d at hd
    match d with
    | 0 => exact absurd hd (by decide)
    | 1 => exact absurd hd (by decide)
    | d + 2 => omega
  rw [Nat.le_antisymm (hleast.2 htwo.1) (htwo.2 hleast.1)] at hroot
  exact ⟨by decide, hlevels 2 (by decide), hroot⟩

end Beacon.Merkle
