import Beacon.Bytes.Basic

/-!
# Merkle roots

A byte string is packed into chunks of 32 bytes, and a list of leaves is hashed in pairs, level by
level, after it is filled up with zeros to a power of two. The hash of a pair is a parameter, so
that a statement about roots says what it needs of it.
-/

namespace Beacon.Merkle

/-- The chunks of a byte string: 32 bytes each, the last one filled up with zeros, and one chunk of
zeros for no bytes. -/
def chunks (bytes : Bytes) : List Digest :=
  match Bytes.pieces 32 bytes with
  | [] => [ByteVector.zero 32]
  | pieces => pieces.map (ByteVector.padded 32)

/-- The least depth of a binary tree with room for `count` leaves. -/
def depth (count : Nat) : Nat := if count ≤ 1 then 0 else (count - 1).log2 + 1

/-- The leaves filled up with zeros to the next power of two. -/
def fill (leaves : List Digest) : List Digest :=
  leaves ++ List.replicate (Nat.pow 2 (depth leaves.length) - leaves.length) (ByteVector.zero 32)

section

variable (join : Digest → Digest → Digest)

/-- Join neighbours; a last one without a neighbour is joined with zeros. -/
def level : List Digest → List Digest
  | [] => []
  | [x] => [join x (ByteVector.zero 32)]
  | x :: y :: rest => join x y :: level rest

/-- Join level by level, `depth` times. -/
def collapse : (depth : Nat) → List Digest → List Digest
  | 0, nodes => nodes
  | depth + 1, nodes => collapse depth (level join nodes)

/-- The root over a list of leaves; no leaves have the root of one chunk of zeros. -/
def root (leaves : List Digest) : Digest :=
  (collapse join (depth leaves.length) (fill leaves)).headD (ByteVector.zero 32)

/-- The root of a byte string. -/
def bytesRoot (bytes : Bytes) : Digest := root join (chunks bytes)

end

/-- The leaf of a 64-bit number: its octets, least significant first, filled up with zeros. -/
def leaf (n : UInt64) : Digest := ByteVector.padded 32 (ByteVector.ofUInt64 n).toList

end Beacon.Merkle
