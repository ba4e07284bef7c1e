import Beacon.Proofs.Merkle.Tree
import Mathlib.Data.List.Basic

/-!
# Roots bind their leaves

Two lists of leaves of one length with the same root are the same, unless two different pairs of
nodes with the same join were met on the way. To tell which pairs were met, `Nodes.root` is the loop
over the levels once more, on nodes of any kind and with a note of each pair that is joined.
`Nodes.digests` makes digests the nodes; then the value is the root itself (`value_root`). Nodes of
other kinds, such as trees that have not been hashed, are joined without any loss, which no join of
two digests to one digest can be.

* `mem_pairs_root`: the pairs that are noted for a root are the neighbours in its tree;
* `Traced.reveals_bind`: what one step tells and what the next one tells are both known, or there is
  a collision in the one or in the other;
* `level_reveals`, `collapse_reveals`, `root_reveals`: a level, the loop and the root tell the nodes
  that they were made of.
-/

namespace Beacon.Merkle

/-! ### Computations with a note of pairs -/

/-- A value, with the pairs of nodes that were joined for it. -/
structure Traced (H α : Type) where
  value : α
  /-- The pairs, in the order in which they were joined. -/
  pairs : List (H × H)

/-- Two different pairs have the same join. -/
def Collides {H : Type} (join : H → H → H) (pairs : List (H × H)) : Prop :=
  ∃ p ∈ pairs, ∃ q ∈ pairs, p ≠ q ∧ join p.1 p.2 = join q.1 q.2

namespace Traced

variable {H α β : Type}

instance : Monad (Traced H) where
  pure a := ⟨a, []⟩
  bind x next := ⟨(next x.value).value, x.pairs ++ (next x.value).pairs⟩

@[simp] theorem value_pure (a : α) : (pure a : Traced H α).value = a := rfl

@[simp] theorem pairs_pure (a : α) : (pure a : Traced H α).pairs = [] := rfl

@[simp] theorem value_bind (x : Traced H α) (next : α → Traced H β) :
    (x >>= next).value = (next x.value).value := rfl

@[simp] theorem pairs_bind (x : Traced H α) (next : α → Traced H β) :
    (x >>= next).pairs = x.pairs ++ (next x.value).pairs := rfl

/-- Several computations, one after the other. -/
def all (parts : List (Traced H α)) : Traced H (List α) :=
  ⟨parts.map value, parts.flatMap pairs⟩

/-- Two computations tell a fact, unless there is a collision in what they joined. -/
def Reveals (join : H → H → H) (x y : Traced H α) (fact : Prop) : Prop :=
  fact ∨ Collides join (x.pairs ++ y.pairs)

end Traced

theorem Collides.mono {H : Type} {join : H → H → H} {pairs pairs' : List (H × H)}
    (subset : pairs ⊆ pairs') (collides : Collides join pairs) : Collides join pairs' := by
  obtain ⟨p, hp, q, hq, hne, hjoin⟩ := collides
  exact ⟨p, subset hp, q, subset hq, hne, hjoin⟩

/-- Two stages that were run twice: where each of them shows a fact unless it met a collision, both
show both facts unless they met one. The first stage may rely on what the second one shows. -/
theorem collides_append {H : Type} {join : H → H → H} {xs ys xs' ys' : List (H × H)}
    {fact later : Prop} (first : later → fact ∨ Collides join (xs ++ ys))
    (second : later ∨ Collides join (xs' ++ ys')) :
    fact ∧ later ∨ Collides join ((xs ++ xs') ++ (ys ++ ys')) := by
  rcases second with hlater | collides
  · rcases first hlater with hfact | collides
    · exact .inl ⟨hfact, hlater⟩
    · refine .inr (collides.mono ?_)
      exact List.append_subset.2
        ⟨fun p hp => by simp [hp], fun p hp => by simp [hp]⟩
  · refine .inr (collides.mono ?_)
    exact List.append_subset.2
      ⟨fun p hp => by simp [hp], fun p hp => by simp [hp]⟩

/-- Where different pairs have different joins there is no collision. -/
theorem not_collides {H : Type} {join : H → H → H} (injective : Function.Injective2 join)
    (pairs : List (H × H)) : ¬ Collides join pairs := by
  rintro ⟨p, -, q, -, hne, hjoin⟩
  obtain ⟨hleft, hright⟩ := injective hjoin
  exact hne (Prod.ext hleft hright)

namespace Traced

variable {H α β : Type} {join : H → H → H}

theorem Reveals.mono {x y : Traced H α} {fact fact' : Prop} (reveals : Reveals join x y fact)
    (h : fact → fact') : Reveals join x y fact' := reveals.imp_left h

/-- What the next step tells may be used to see what the first one tells. -/
theorem reveals_bind {x y : Traced H α} {next next' : α → Traced H β} {fact later : Prop}
    (second : Reveals join (next x.value) (next' y.value) later)
    (first : later → Reveals join x y fact) :
    Reveals join (x >>= next) (y >>= next') (fact ∧ later) :=
  collides_append first second

/-- A value that is returned needs no join. -/
theorem reveals_pure {a b : α} {fact : Prop} (h : fact) :
    Reveals join (pure a : Traced H α) (pure b) fact := .inl h

theorem all_reveals_nil : Reveals join (all ([] : List (Traced H α))) (all []) True := .inl trivial

/-- What each of several computations tells is known of all of them. -/
theorem all_reveals_cons {x y : Traced H α} {xs ys : List (Traced H α)} {fact others : Prop}
    (first : Reveals join x y fact) (rest : Reveals join (all xs) (all ys) others) :
    Reveals join (all (x :: xs)) (all (y :: ys)) (fact ∧ others) :=
  collides_append (fun _ => first) rest

end Traced

/-! ### Leaves -/

/-- Chunks hold all octets, so that bytes of one length can be told from each other by them. -/
theorem chunks_inj {bytes bytes' : Bytes} (hlen : bytes.length = bytes'.length)
    (h : chunks bytes = chunks bytes') : bytes = bytes' := by
  have hchunk (i : Nat) : chunkAt bytes i = chunkAt bytes' i := by
    rw [← leafAt_chunks, ← leafAt_chunks, h]
  have hoctet (k : Nat) : bytes[k]?.getD 0 = bytes'[k]?.getD 0 := by
    -- octet `k` is octet `k % 32` of chunk `k / 32`
    have hlist := congrArg ByteVector.toList (hchunk (k / 32))
    have hget := congrArg (fun octets => octets[k % 32]?) hlist
    simpa [chunkAt, Nat.mod_lt, Nat.div_add_mod] using hget
  refine List.ext_getElem hlen fun k hk hk' => ?_
  have := hoctet k
  rwa [List.getElem?_eq_getElem hk, List.getElem?_eq_getElem hk'] at this

/-! ### Roots over nodes of any kind -/

/-- Nodes of trees: how digests are nodes, and how two nodes are joined. -/
structure Nodes (H : Type) where
  ofDigest : Digest → H
  join : H → H → H

namespace Nodes

/-- Digests as nodes, with the hash of a pair. -/
def digests (join : Digest → Digest → Digest) : Nodes Digest := ⟨id, join⟩

variable {H : Type} (nodes : Nodes H)

/-- The node of zeros. -/
def zero : H := nodes.ofDigest (.zero 32)

/-- Join two nodes, and note that they were joined. -/
def link (x y : H) : Traced H H := ⟨nodes.join x y, [(x, y)]⟩

/-- Join neighbours; a last one without a neighbour is joined with zeros. -/
def level : List H → Traced H (List H)
  | [] => pure []
  | [x] => do
    let last ← nodes.link x nodes.zero
    return [last]
  | x :: y :: rest => do
    let first ← nodes.link x y
    let others ← level rest
    return first :: others

/-- Join level by level, `depth` times. -/
def collapse : (depth : Nat) → List H → Traced H (List H)
  | 0, leaves => pure leaves
  | depth + 1, leaves => do
    let joined ← nodes.level leaves
    collapse depth joined

/-- The leaves filled up with zeros to the next power of two. -/
def fill (leaves : List H) : List H :=
  leaves ++ List.replicate (2 ^ depth leaves.length - leaves.length) nodes.zero

/-- The root over a list of leaves. -/
def root (leaves : List H) : Traced H H := do
  let top ← nodes.collapse (depth leaves.length) (nodes.fill leaves)
  return top.headD nodes.zero

/-- The root of a list of digests. -/
def digestsRoot (leaves : List Digest) : Traced H H := nodes.root (leaves.map nodes.ofDigest)

/-- The root of a byte string. -/
def bytesRoot (bytes : Bytes) : Traced H H := nodes.digestsRoot (chunks bytes)

/-- The root over some parts that have roots of their own. -/
def container (parts : List (Traced H H)) : Traced H H := do
  let roots ← Traced.all parts
  nodes.root roots

/-! ### Roots over digests -/

section

variable (join : Digest → Digest → Digest)

theorem value_level (leaves : List Digest) :
    ((digests join).level leaves).value = Merkle.level join leaves := by
  fun_induction Merkle.level join leaves with
  | case1 => rfl
  | case2 x => rfl
  | case3 x y rest ih =>
    rw [level, Traced.value_bind, Traced.value_bind, ih]
    rfl

theorem value_collapse (depth : Nat) (leaves : List Digest) :
    ((digests join).collapse depth leaves).value = Merkle.collapse join depth leaves := by
  induction depth generalizing leaves with
  | zero => rfl
  | succ depth ih => rw [collapse, Traced.value_bind, value_level, ih, Merkle.collapse]

/-- Over digests the value is the root that is found level by level. -/
theorem value_root (leaves : List Digest) :
    ((digests join).root leaves).value = Merkle.root join leaves := by
  rw [root, Traced.value_bind, value_collapse]
  rfl

theorem value_digestsRoot (leaves : List Digest) :
    ((digests join).digestsRoot leaves).value = Merkle.root join leaves := by
  have hmap : leaves.map (digests join).ofDigest = leaves := List.map_id leaves
  rw [digestsRoot, hmap, value_root]

theorem value_container (parts : List (Traced Digest Digest)) :
    ((digests join).container parts).value = Merkle.root join (parts.map Traced.value) :=
  value_root join (parts.map Traced.value)

theorem value_bytesRoot (bytes : Bytes) :
    ((digests join).bytesRoot bytes).value = Merkle.bytesRoot join bytes :=
  value_digestsRoot join (chunks bytes)

/-- The pairs of a full level are the neighbours in it. -/
theorem pairs_level (f : Nat → Digest) (m : Nat) :
    ((digests join).level ((List.range (2 * m)).map f)).pairs =
      (List.range m).map fun i => (f (2 * i), f (2 * i + 1)) := by
  induction m generalizing f with
  | zero => rfl
  | succ m ih =>
    rw [map_range_two_mul, level, Traced.pairs_bind, Traced.pairs_bind, Traced.pairs_pure,
      List.append_nil, ih, List.range_succ_eq_map, List.map_cons, List.map_map]
    rfl

/-- The pairs of the loop over full levels are the neighbours at the heights it goes through. -/
theorem mem_pairs_collapse (leaf : Nat → Digest) (turns height m : Nat) (p : Digest × Digest) :
    p ∈ ((digests join).collapse turns
        ((List.range (2 ^ turns * m)).map (node join leaf height))).pairs ↔
      ∃ t < turns, ∃ i < 2 ^ (turns - (t + 1)) * m,
        p = (node join leaf (height + t) (2 * i), node join leaf (height + t) (2 * i + 1)) := by
  induction turns generalizing height with
  | zero =>
    constructor
    · intro h
      cases h
    · rintro ⟨t, ht, -⟩
      cases ht
  | succ turns ih =>
    have hlevel : ((digests join).level
        ((List.range (2 * (2 ^ turns * m))).map (node join leaf height))).value =
          (List.range (2 ^ turns * m)).map (node join leaf (height + 1)) := by
      rw [value_level, level_of_pairs join (pairs_nodes join leaf height _)]
    rw [Nat.pow_succ', Nat.mul_assoc, collapse, Traced.pairs_bind, hlevel, List.mem_append, ih,
      pairs_level, List.mem_map]
    constructor
    · rintro (⟨i, hi, rfl⟩ | ⟨t, ht, i, hi, rfl⟩)
      · exact ⟨0, Nat.succ_pos turns, i, List.mem_range.1 hi, rfl⟩
      · refine ⟨t + 1, Nat.succ_lt_succ ht, i, ?_, ?_⟩
        · rwa [Nat.add_sub_add_right]
        · rw [Nat.add_right_comm, Nat.add_assoc]
    · rintro ⟨t, ht, i, hi, rfl⟩
      cases t with
      | zero => exact .inl ⟨i, List.mem_range.2 hi, rfl⟩
      | succ t =>
        refine .inr ⟨t, Nat.lt_of_succ_lt_succ ht, i, ?_, ?_⟩
        · rwa [Nat.add_sub_add_right] at hi
        · rw [Nat.add_right_comm, Nat.add_assoc]

/-- The pairs that are noted for a root are the neighbours in the tree that it is the root of. -/
theorem mem_pairs_root (leaves : List Digest) (p : Digest × Digest) :
    p ∈ ((digests join).root leaves).pairs ↔
      ∃ height < depth leaves.length, ∃ i < 2 ^ (depth leaves.length - (height + 1)),
        p = (node join (leafAt leaves) height (2 * i),
          node join (leafAt leaves) height (2 * i + 1)) := by
  have hfill : (digests join).fill leaves =
      (List.range (2 ^ depth leaves.length * 1)).map (node join (leafAt leaves) 0) := by
    rw [Nat.mul_one]
    exact fill_eq leaves
  have hpairs := mem_pairs_collapse join (leafAt leaves) (depth leaves.length) 0 1 p
  simp only [Nat.mul_one, Nat.zero_add] at hpairs
  rw [root, Traced.pairs_bind, Traced.pairs_pure, List.append_nil, hfill, Nat.mul_one]
  exact hpairs

end

/-! ### What roots tell -/

section

open Traced

theorem link_reveals {x y x' y' : H} (h : (nodes.link x y).value = (nodes.link x' y').value) :
    Reveals nodes.join (nodes.link x y) (nodes.link x' y') (x = x' ∧ y = y') := by
  by_cases hpair : (x, y) = (x', y')
  · exact .inl (Prod.mk.inj hpair)
  · exact .inr ⟨(x, y), by simp [link], (x', y'), by simp [link], hpair, h⟩

/-- A level tells the nodes that were joined in it. -/
theorem level_reveals {leaves leaves' : List H} (hlen : leaves.length = leaves'.length)
    (h : (nodes.level leaves).value = (nodes.level leaves').value) :
    Reveals nodes.join (nodes.level leaves) (nodes.level leaves') (leaves = leaves') := by
  induction leaves using level.induct generalizing leaves' with
  | case1 =>
    obtain rfl : leaves' = [] := List.eq_nil_of_length_eq_zero hlen.symm
    exact .inl rfl
  | case2 x =>
    obtain ⟨x', rfl⟩ := List.length_eq_one_iff.1 hlen.symm
    have hlast := nodes.link_reveals (List.cons.inj h).1
    refine (reveals_bind (reveals_pure trivial) fun _ => hlast).mono ?_
    rintro ⟨⟨rfl, -⟩, -⟩
    rfl
  | case3 x y rest ih =>
    match leaves' with
    | x' :: y' :: rest' =>
      obtain ⟨hjoin, hothers⟩ := List.cons.inj h
      have hfirst := nodes.link_reveals hjoin
      have hrest := ih (by simpa using hlen) hothers
      have htail := reveals_bind (reveals_pure trivial) fun _ => hrest
      refine (reveals_bind htail fun _ => hfirst).mono ?_
      rintro ⟨⟨rfl, rfl⟩, rfl, -⟩
      rfl
    | [] | [_] => simp at hlen

theorem length_level (leaves : List H) :
    (nodes.level leaves).value.length = (leaves.length + 1) / 2 := by
  induction leaves using level.induct with
  | case1 => simp [level]
  | case2 x => simp [level]
  | case3 x y rest ih =>
    rw [level, value_bind, value_bind, value_pure, List.length_cons, ih]
    simp only [List.length_cons]
    omega

/-- The loop over levels tells the nodes that it started from. -/
theorem collapse_reveals {depth : Nat} {leaves leaves' : List H}
    (hlen : leaves.length = leaves'.length)
    (h : (nodes.collapse depth leaves).value = (nodes.collapse depth leaves').value) :
    Reveals nodes.join (nodes.collapse depth leaves) (nodes.collapse depth leaves')
      (leaves = leaves') := by
  induction depth generalizing leaves leaves' with
  | zero => exact .inl h
  | succ depth ih =>
    have hlevel : (nodes.level leaves).value.length = (nodes.level leaves').value.length := by
      rw [length_level, length_level, hlen]
    -- the loop tells the joined nodes, and these tell the nodes below
    refine (reveals_bind (ih hlevel h) fun hjoined => ?_).mono And.left
    exact nodes.level_reveals hlen hjoined

theorem length_collapse {depth : Nat} {leaves : List H} (h : leaves.length = 2 ^ depth) :
    (nodes.collapse depth leaves).value.length = 1 := by
  induction depth generalizing leaves with
  | zero => exact h
  | succ depth ih =>
    refine ih ?_
    rw [length_level, h, Nat.pow_succ]
    omega

theorem length_fill (leaves : List H) :
    (nodes.fill leaves).length = 2 ^ depth leaves.length := by
  have hroom : leaves.length ≤ 2 ^ depth leaves.length := (isLeast_depth leaves.length).1
  rw [fill, List.length_append, List.length_replicate]
  omega

/-- A root tells the leaves below it. -/
theorem root_reveals {leaves leaves' : List H} (hlen : leaves.length = leaves'.length)
    (h : (nodes.root leaves).value = (nodes.root leaves').value) :
    Reveals nodes.join (nodes.root leaves) (nodes.root leaves') (leaves = leaves') := by
  have hfill : (nodes.fill leaves).length = (nodes.fill leaves').length := by
    rw [length_fill, length_fill, hlen]
  have htop : (nodes.collapse (depth leaves.length) (nodes.fill leaves)).value =
      (nodes.collapse (depth leaves.length) (nodes.fill leaves')).value := by
    have hone := nodes.length_collapse (nodes.length_fill leaves)
    have hone' := nodes.length_collapse (nodes.length_fill leaves')
    obtain ⟨top, htop⟩ := List.length_eq_one_iff.1 hone
    obtain ⟨top', htop'⟩ := List.length_eq_one_iff.1 hone'
    rw [root, root, value_bind, value_bind, htop, htop'] at h
    rw [hlen] at htop ⊢
    rw [htop, htop']
    exact congrArg (fun node => [node]) h
  have hloop := nodes.collapse_reveals hfill htop
  have hleaves : nodes.fill leaves = nodes.fill leaves' → leaves = leaves' := fun heq =>
    (List.append_inj heq hlen).1
  rw [root, root, ← hlen]
  exact (reveals_bind (reveals_pure trivial) fun _ => hloop).mono fun hfacts => hleaves hfacts.1

/-- The root over some parts tells their roots, and so what these tell. -/
theorem container_reveals {parts parts' : List (Traced H H)} {fact : Prop}
    (hlen : parts.length = parts'.length)
    (h : (nodes.container parts).value = (nodes.container parts').value)
    (each : parts.map value = parts'.map value → Reveals nodes.join (all parts) (all parts') fact) :
    Reveals nodes.join (nodes.container parts) (nodes.container parts') fact := by
  have hroots : (all parts).value.length = (all parts').value.length := by simpa [all] using hlen
  exact (reveals_bind (nodes.root_reveals hroots h) each).mono And.left

variable (faithful : Function.Injective nodes.ofDigest)

include faithful in
theorem digestsRoot_reveals {leaves leaves' : List Digest} (hlen : leaves.length = leaves'.length)
    (h : (nodes.digestsRoot leaves).value = (nodes.digestsRoot leaves').value) :
    Reveals nodes.join (nodes.digestsRoot leaves) (nodes.digestsRoot leaves')
      (leaves = leaves') :=
  (nodes.root_reveals (by simpa using hlen) h).mono (List.map_injective_iff.2 faithful ·)

include faithful in
/-- The root of a byte string tells its octets. -/
theorem bytesRoot_reveals {bytes bytes' : Bytes} (hlen : bytes.length = bytes'.length)
    (h : (nodes.bytesRoot bytes).value = (nodes.bytesRoot bytes').value) :
    Reveals nodes.join (nodes.bytesRoot bytes) (nodes.bytesRoot bytes') (bytes = bytes') := by
  have hchunks : (chunks bytes).length = (chunks bytes').length := by
    rw [chunks_eq, chunks_eq, hlen, List.length_map, List.length_map]
  exact (nodes.digestsRoot_reveals faithful hchunks h).mono (chunks_inj hlen)

end

end Nodes

end Beacon.Merkle
