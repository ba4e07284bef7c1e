import Beacon.Json.Value
import Beacon.Ssz.Cursor

/-!
# Beacon states

The layout of a state depends on its fork, so a state is kept in the encoding it came in. Only its
slot is read: from its fixed place in serialized bytes, or from the member `slot` of a JSON object.
-/

namespace Beacon

/-- A state in the encoding it came in: serialized bytes or a JSON value. -/
inductive StateData where
  | ssz (bytes : Bytes)
  | json (value : Json.Value)

namespace StateData

/-- Whether two states are the same. Those in different encodings never are. -/
def same : StateData → StateData → Bool
  | .ssz a, .ssz b => a == b
  | .json a, .json b => a == b
  | _, _ => false

instance : BEq StateData := ⟨same⟩

instance : EquivBEq StateData where
  rfl {a} := by
    cases a with
    | ssz bytes => exact beq_self_eq_true bytes
    | json value => exact BEq.refl value
  symm {a b} h := by
    cases a <;> cases b
    case ssz.ssz => exact BEq.symm (α := Bytes) h
    case json.json => exact BEq.symm (α := Json.Value) h
    all_goals cases h
  trans {a b c} h h' := by
    cases a <;> cases b
    case ssz.ssz => rwa [eq_of_beq (α := Bytes) h]
    case json.json =>
      cases c with
      | json _ => exact BEq.trans (α := Json.Value) h h'
      | ssz _ => cases h'
    all_goals cases h

end StateData

/-- A state of a known fork. -/
structure BeaconState where
  fork : Fork
  data : StateData

namespace BeaconState

instance : BEq BeaconState where
  beq a b := a.fork == b.fork && a.data == b.data

theorem beq_iff {a b : BeaconState} :
    (a == b) = true ↔ a.fork = b.fork ∧ (a.data == b.data) = true :=
  Bool.and_eq_true_iff.trans (and_congr_left' beq_iff_eq)

instance : EquivBEq BeaconState where
  rfl := beq_iff.2 ⟨rfl, BEq.refl _⟩
  symm h := by
    obtain ⟨hfork, hdata⟩ := beq_iff.1 h
    exact beq_iff.2 ⟨hfork.symm, BEq.symm hdata⟩
  trans h h' := by
    obtain ⟨hfork, hdata⟩ := beq_iff.1 h
    obtain ⟨hfork', hdata'⟩ := beq_iff.1 h'
    exact beq_iff.2 ⟨hfork.trans hfork', BEq.trans hdata hdata'⟩

/-- The place of the slot in serialized bytes: after the genesis time and the root of the genesis
validators. -/
def slotOffset : UInt64 := 40

/-- The length of the serialized bytes up to the slot. -/
def minimumSize : Nat := 48

/-- A state in serialized bytes. -/
def ofSsz (fork : Fork) (bytes : Bytes) : Except DataError BeaconState :=
  if bytes.length < minimumSize then .error (.tooShort "BeaconState" minimumSize bytes.length)
  else .ok ⟨fork, .ssz bytes⟩

/-- A state as a JSON object. -/
def ofJson (fork : Fork) (value : Json.Value) : Except DataError BeaconState :=
  match value with
  | .object _ => .ok ⟨fork, .json value⟩
  | _ => .error (.unreadable "BeaconState" "state is not a JSON object")

/-- The slot of a state. -/
def slot (state : BeaconState) : Except DataError UInt64 :=
  match state.data with
  | .ssz bytes => (Ssz.part "BeaconState" (Ssz.cutUInt64 bytes slotOffset)).map Prod.snd
  | .json value =>
    match value.member? "slot" with
    | some (.string text) =>
      match Numeral.read text with
      | .ok n => .ok n
      | .error e => .error (.unreadable "BeaconState" e.message)
    | _ => .error (.unreadable "BeaconState" "missing slot")

end BeaconState

end Beacon
