/-!
# Byte strings

`Bytes` is a list of octets and `ByteVector n` a byte string of exactly `n` octets. Unsigned
numbers are laid out with their least significant octet first: `Bytes.ofNat` writes a number in a
given number of octets and `Bytes.toNat` reads it back.
-/

namespace Beacon

/-- A string of octets. -/
abbrev Bytes := List UInt8

namespace Bytes

/-- The `count` least significant octets of a number, least significant first. -/
def ofNat : (count n : Nat) → Bytes
  | 0, _ => []
  | count + 1, n => n.toUInt8 :: ofNat count (n / 256)

/-- The number whose octets are given, least significant first. -/
def toNat : Bytes → Nat
  | [] => 0
  | b :: rest => b.toNat + 256 * toNat rest

@[simp] theorem length_ofNat (count n : Nat) : (ofNat count n).length = count := by
  induction count generalizing n with
  | zero => rfl
  | succ count ih => simp [ofNat, ih]

/-- Writing and reading keep a number up to the octets that were written. -/
theorem toNat_ofNat (count n : Nat) : toNat (ofNat count n) = n % Nat.pow 256 count := by
  induction count generalizing n with
  | zero => simp [ofNat, toNat, Nat.mod_one]
  | succ count ih =>
    have h : Nat.pow 256 (count + 1) = 256 * Nat.pow 256 count := Nat.mul_comm ..
    rw [ofNat, toNat, ih, h, Nat.mod_mul]
    simp

/-- Cut a byte string into consecutive pieces of `size` octets; the last one may be shorter. -/
def pieces (size : Nat) (bytes : Bytes) : List Bytes :=
  go (bytes.length / size + 1) bytes []
where
  /-- Cut at most `count` pieces, collecting them in reverse. -/
  go : Nat → Bytes → List Bytes → List Bytes
    | 0, _, done => done.reverse
    | _ + 1, [], done => done.reverse
    | count + 1, rest, done => go count (rest.drop size) (rest.take size :: done)

end Bytes

/-- A byte string of a fixed length. -/
structure ByteVector (n : Nat) where
  toList : Bytes
  length_toList : toList.length = n

namespace ByteVector

@[ext] theorem ext {n : Nat} {a b : ByteVector n} (h : a.toList = b.toList) : a = b := by
  cases a; cases b; cases h; rfl

instance {n : Nat} : BEq (ByteVector n) := ⟨fun a b => a.toList == b.toList⟩

instance {n : Nat} : LawfulBEq (ByteVector n) where
  eq_of_beq h := ext (eq_of_beq h)
  rfl {a} := beq_self_eq_true a.toList

instance {n : Nat} : DecidableEq (ByteVector n) := fun a b =>
  if h : (a.toList == b.toList) = true then
    isTrue (ext (eq_of_beq h))
  else
    isFalse fun e => h (e ▸ beq_self_eq_true a.toList)

attribute [simp] length_toList

/-- A byte string, if it has the right length. -/
def ofList? (n : Nat) (bytes : Bytes) : Option (ByteVector n) :=
  if h : bytes.length = n then some ⟨bytes, h⟩ else none

/-- The first `n` octets of a byte string, filled up with zeros. -/
def padded (n : Nat) (bytes : Bytes) : ByteVector n :=
  ⟨(bytes.take n) ++ List.replicate (n - bytes.length) 0, by
    simp only [List.length_append, List.length_take, List.length_replicate]; omega⟩

/-- The vector of zeros. -/
def zero (n : Nat) : ByteVector n := ⟨List.replicate n 0, List.length_replicate⟩

/-- A 64-bit number in eight octets, least significant first. -/
def ofUInt64 (n : UInt64) : ByteVector 8 := ⟨Bytes.ofNat 8 n.toNat, Bytes.length_ofNat 8 _⟩

/-- The 64-bit number in eight octets, least significant first. -/
def toUInt64 (bytes : ByteVector 8) : UInt64 := (Bytes.toNat bytes.toList).toUInt64

/-- A 64-bit number reads back from its octets. -/
theorem toUInt64_ofUInt64 (n : UInt64) : toUInt64 (ofUInt64 n) = n := by
  have h : n.toNat % Nat.pow 256 8 = n.toNat := Nat.mod_eq_of_lt n.toNat_lt
  simp only [toUInt64, ofUInt64, Bytes.toNat_ofNat, h]
  exact UInt64.ofNat_toNat

@[simp] theorem ofList?_toList {n : Nat} (v : ByteVector n) : ofList? n v.toList = some v := by
  simp [ofList?]

theorem ofList?_eq_some {n : Nat} {bytes : Bytes} {v : ByteVector n} :
    ofList? n bytes = some v ↔ bytes = v.toList := by
  constructor
  · intro h
    simp only [ofList?] at h
    split at h
    · cases h; rfl
    · cases h
  · rintro rfl
    simp

end ByteVector

/-- A 32-byte hash, root or chunk. -/
abbrev Digest := ByteVector 32

end Beacon
