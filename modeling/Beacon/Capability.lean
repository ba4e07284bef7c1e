/-!
# Capabilities

The operations that a node can be asked for, in their order, and sets of them. A set is kept as the
test for its members, so that the order in which they were put in cannot show.
-/

namespace Beacon

/-- An operation that a node can be asked for. -/
inductive Capability where
  | genesis
  | nodeVersion
  | blockHeader
  | blockRoot
  | stateRoot
  | finalityCheckpoints
  | state
  | blobSidecars
  | validatorLiveness
deriving DecidableEq, Repr

namespace Capability

/-- Every capability, in order. -/
def all : List Capability :=
  [.genesis, .nodeVersion, .blockHeader, .blockRoot, .stateRoot, .finalityCheckpoints, .state,
    .blobSidecars, .validatorLiveness]

/-- The name of a capability. -/
def name : Capability → String
  | .genesis => "genesis"
  | .nodeVersion => "node version"
  | .blockHeader => "beacon block header"
  | .blockRoot => "beacon block root"
  | .stateRoot => "beacon state root"
  | .finalityCheckpoints => "finality checkpoints"
  | .state => "beacon state"
  | .blobSidecars => "blob sidecars"
  | .validatorLiveness => "validator liveness"

/-- No capability is left out. -/
theorem mem_all (c : Capability) : c ∈ all := by
  cases c <;> decide

end Capability

/-- A set of capabilities. -/
structure CapabilitySet where
  contains : Capability → Bool

namespace CapabilitySet

/-- No capability. -/
def empty : CapabilitySet := ⟨fun _ => false⟩

/-- Every capability. -/
def all : CapabilitySet := ⟨fun _ => true⟩

/-- The set with one more capability. -/
def insert (s : CapabilitySet) (c : Capability) : CapabilitySet :=
  ⟨fun other => s.contains other || other = c⟩

/-- The capabilities of either set. -/
def union (s t : CapabilitySet) : CapabilitySet := ⟨fun c => s.contains c || t.contains c⟩

/-- The set of the capabilities in a list. -/
def ofList (list : List Capability) : CapabilitySet := ⟨fun c => list.contains c⟩

/-- The capabilities of a set, in order. -/
def toList (s : CapabilitySet) : List Capability := Capability.all.filter s.contains

/-- Whether there is no capability in the set. -/
def isEmpty (s : CapabilitySet) : Bool := s.toList.isEmpty

@[ext] theorem ext {s t : CapabilitySet} (h : ∀ c, s.contains c = t.contains c) : s = t := by
  cases s; cases t; congr; exact funext h

@[simp] theorem contains_empty (c : Capability) : empty.contains c = false := rfl

@[simp] theorem contains_all (c : Capability) : all.contains c = true := rfl

@[simp] theorem contains_insert (s : CapabilitySet) (c d : Capability) :
    (s.insert c).contains d = (s.contains d || d = c) := rfl

@[simp] theorem contains_union (s t : CapabilitySet) (c : Capability) :
    (s.union t).contains c = (s.contains c || t.contains c) := rfl

theorem mem_toList {s : CapabilitySet} {c : Capability} : c ∈ s.toList ↔ s.contains c = true := by
  simp [toList, Capability.mem_all]

end CapabilitySet

end Beacon
