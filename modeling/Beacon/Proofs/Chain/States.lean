import Beacon.Proofs.Json.Free
import Beacon.Proofs.Ssz.FixedSize
import Beacon.Proofs.Text.Decimal
import Beacon.Request
import Mathlib.Data.Nat.Digits.Defs

/-!
# States and their slots

A state is kept in the encoding it came in, and its slot is found in a different way in each: at a
fixed place of serialized bytes (`BeaconState.slot_ssz_eq_ok_iff`), or under a name in JSON
(`BeaconState.slot_json_eq_ok_iff`). What is taken for a state is just enough for this in serialized
bytes and less than enough in JSON, where it is any object. `Request.reads_states` says which
replies bring a state and what slot it tells.
-/

namespace Beacon

theorem Bytes.toNat_eq_ofDigits (bytes : Bytes) :
    toNat bytes = Nat.ofDigits 256 (bytes.map UInt8.toNat) := by
  induction bytes with
  | nil => rfl
  | cons b rest ih => rw [toNat, ih, List.map_cons, Nat.ofDigits_cons]

theorem ByteVector.toNat_ofUInt64 (n : UInt64) : Bytes.toNat (ofUInt64 n).toList = n.toNat := by
  show Bytes.toNat (Bytes.ofNat 8 n.toNat) = n.toNat
  rw [Bytes.toNat_ofNat]
  exact Nat.mod_eq_of_lt n.toNat_lt

namespace BeaconState

variable {fork : Fork} {bytes : Bytes} {value : Json.Value} {n : UInt64}

/-! ### Serialized bytes -/

/-- The slot in serialized bytes is written in the eight octets after the first forty. -/
theorem slot_ssz_eq_ok_iff :
    slot ⟨fork, .ssz bytes⟩ = .ok n ↔
      minimumSize ≤ bytes.length ∧ (bytes.drop 40).take 8 = (ByteVector.ofUInt64 n).toList := by
  have hcut (next : UInt64) (octets : ByteVector 8) :
      Ssz.cut 8 bytes slotOffset = .ok (next, octets) ↔
        minimumSize ≤ bytes.length ∧ next.toNat = 48 ∧ octets.toList = (bytes.drop 40).take 8 := by
    rw [Ssz.cut_eq_ok_iff, and_iff_right (by decide)]
    rfl
  have hslot : slot ⟨fork, .ssz bytes⟩ = .ok n ↔
      ∃ next octets, Ssz.cut 8 bytes slotOffset = .ok (next, octets) ∧ octets.toUInt64 = n := by
    simp only [slot, Ssz.part, Ssz.cutUInt64]
    cases Ssz.cut 8 bytes slotOffset with
    | error e => simp [Except.mapError, Except.map]
    | ok result =>
      obtain ⟨next, octets⟩ := result
      simp [Except.mapError, Except.map]
  rw [hslot]
  simp only [hcut]
  constructor
  · rintro ⟨next, octets, ⟨hsize, -, hoctets⟩, rfl⟩
    rw [ByteVector.ofUInt64_toUInt64]
    exact ⟨hsize, hoctets.symm⟩
  · rintro ⟨hsize, hoctets⟩
    exact ⟨48, _, ⟨hsize, rfl, hoctets.symm⟩, ByteVector.toUInt64_ofUInt64 n⟩

/-- It is a number with its least significant octet first, and is there whenever the bytes are
enough. -/
theorem exists_slot_ssz (h : minimumSize ≤ bytes.length) :
    ∃ n, slot ⟨fork, .ssz bytes⟩ = .ok n ∧
      n.toNat = Nat.ofDigits 256 (((bytes.drop 40).take 8).map UInt8.toNat) := by
  have hlength : ((bytes.drop 40).take 8).length = 8 := by
    have hsize : minimumSize = 48 := rfl
    rw [List.length_take, List.length_drop]
    omega
  refine ⟨ByteVector.toUInt64 ⟨(bytes.drop 40).take 8, hlength⟩,
    slot_ssz_eq_ok_iff.2 ⟨h, ?_⟩, ?_⟩
  · rw [ByteVector.ofUInt64_toUInt64]
  · rw [← Bytes.toNat_eq_ofDigits, ← ByteVector.toNat_ofUInt64, ByteVector.ofUInt64_toUInt64]

theorem slot_ssz_append {before after : Bytes} (h : before.length = 40) :
    slot ⟨fork, .ssz (before ++ (ByteVector.ofUInt64 n).toList ++ after)⟩ = .ok n := by
  rw [slot_ssz_eq_ok_iff, List.append_assoc, List.drop_left' h,
    List.take_left' (ByteVector.ofUInt64 n).length_toList]
  refine ⟨?_, rfl⟩
  have hsize : minimumSize = 48 := rfl
  simp only [List.length_append, ByteVector.length_toList]
  omega

/-! ### JSON -/

/-- A state in JSON tells no slot for one of two reasons: its member is no number, or is no text. -/
theorem slot_json_eq_error_iff {e : DataError} :
    slot ⟨fork, .json value⟩ = .error e ↔
      (∃ text cause, value.member? "slot" = some (.string text) ∧
        Numeral.read text = .error cause ∧ e = .unreadable "BeaconState" cause.message) ∨
      (∀ text, value.member? "slot" ≠ some (.string text)) ∧
        e = .unreadable "BeaconState" "missing slot" := by
  simp only [slot]
  cases hmember : value.member? "slot" with
  | none => simp [eq_comm]
  | some found =>
    cases found with
    | string text => cases hread : Numeral.read text <;> simp [hread, eq_comm]
    | null | bool | integer | decimal | array | object => simp [eq_comm]

theorem ofJson_eq_ok_iff {state : BeaconState} :
    ofJson fork value = .ok state ↔
      ∃ members, value = .object members ∧ state = ⟨fork, .json (.object members)⟩ := by
  cases value with
  | object members => simp [ofJson, eq_comm]
  | null | bool | integer | decimal | string | array => simp [ofJson]

theorem ofSsz_eq_ok_iff {state : BeaconState} :
    ofSsz fork bytes = .ok state ↔ minimumSize ≤ bytes.length ∧ state = ⟨fork, .ssz bytes⟩ := by
  rw [ofSsz, ← Nat.not_lt]
  split
  · next h => simp [h]
  · next h => simp [h, eq_comm]

end BeaconState

/-! ### Replies -/

namespace Request

variable {fork : Fork} {payload : Bytes} {state : BeaconState}

theorem readData_eq_ok_iff {α : Type} (structureName : String) {codec : Json.Codec α}
    {value : α} :
    readData structureName codec payload = .ok value ↔ codec.data.decode payload = .ok value := by
  unfold readData
  cases codec.data.decode payload <;> simp

theorem readState_ssz_eq_ok_iff :
    readState (.success .ssz (some fork) payload) = .ok state ↔
      BeaconState.minimumSize ≤ payload.length ∧ state = ⟨fork, .ssz payload⟩ :=
  BeaconState.ofSsz_eq_ok_iff

theorem readState_json_eq_ok_iff :
    readState (.success .json (some fork) payload) = .ok state ↔
      ∃ members, (Json.Codec.free 1).data.decode payload = .ok (.object members) ∧
        state = ⟨fork, .json (.object members)⟩ := by
  have hread : readState (.success .json (some fork) payload) =
      (readData "BeaconState" (.free 1) payload >>= BeaconState.ofJson fork) := rfl
  rw [hread]
  simp only [← readData_eq_ok_iff "BeaconState"]
  cases readData "BeaconState" (.free 1) payload with
  | error e => simp [bind, Except.bind]
  | ok value => simp [bind, Except.bind, BeaconState.ofJson_eq_ok_iff]

theorem readState_of_fork?_eq_none {reply : Reply} (h : reply.fork? = none) :
    readState reply = .error (.missingFork "BeaconState") := by
  rw [readState, requireFork, h]
  rfl

/-- The slot of a state that comes in JSON is the number that the last member `slot` quotes, of the
object that comes. -/
theorem exists_slot_of_readState (h : readState (.success .json (some fork) payload) = .ok state) :
    ∃ items, Json.IsResponse (.object items true) payload ∧ ∀ n, state.slot = .ok n ↔
      ∃ node, (Json.named items "slot").getLast? = some node ∧ node.Quotes n.toNat := by
  obtain ⟨members, hdecode, rfl⟩ := readState_json_eq_ok_iff.1 h
  obtain ⟨node, response, hread⟩ := Json.Codec.data_decode_eq_ok_iff.1 hdecode
  obtain ⟨items, rfl, hmember⟩ := Json.Value.exists_members_of_ofNode hread
  refine ⟨items, response, fun n => ?_⟩
  rw [BeaconState.slot_json_eq_ok_iff]
  simp only [hmember, Json.Node.Quotes]
  constructor
  · rintro ⟨text, ⟨body, hlast, htext⟩, denotes⟩
    exact ⟨_, hlast, body, text, rfl, htext, denotes⟩
  · rintro ⟨_, hlast, body, text, rfl, htext, denotes⟩
    exact ⟨text, ⟨body, hlast, htext⟩, denotes⟩

/-- **States and their slots.** Serialized bytes bring a state if and only if there are at least 48
of them. The state is these bytes, and its slot is always told: it is the number in the octets from
number 40 to number 47. A reply in JSON brings a state if and only if it is a response with an
object. The slot of this state is told if and only if the last member `slot` of the object quotes a
number, which is the slot; otherwise it is an error, for one of two reasons. So states in either
encoding tell the same slot if the one has it in its place and the other has its digits under its
name. A reply that does not tell the fork brings no state. -/
theorem reads_states (id : String) :
    (∀ fork payload state, decode (.state id) (.success .ssz (some fork) payload) = .ok state ↔
      BeaconState.minimumSize ≤ payload.length ∧ state = ⟨fork, .ssz payload⟩) ∧
    (∀ fork payload, BeaconState.minimumSize ≤ payload.length → ∃ n,
      BeaconState.slot ⟨fork, .ssz payload⟩ = .ok n ∧
        n.toNat = Nat.ofDigits 256 (((payload.drop 40).take 8).map UInt8.toNat)) ∧
    (∀ fork payload state, decode (.state id) (.success .json (some fork) payload) = .ok state ↔
      ∃ members, (Json.Codec.free 1).data.decode payload = .ok (.object members) ∧
        state = ⟨fork, .json (.object members)⟩) ∧
    (∀ fork payload (state : BeaconState),
      decode (.state id) (.success .json (some fork) payload) = .ok state →
      ∃ items, Json.IsResponse (.object items true) payload ∧ ∀ n, state.slot = .ok n ↔
        ∃ node, (Json.named items "slot").getLast? = some node ∧ node.Quotes n.toNat) ∧
    (∀ fork value e, BeaconState.slot ⟨fork, .json value⟩ = .error e ↔
      (∃ text cause, value.member? "slot" = some (.string text) ∧
        Numeral.read text = .error cause ∧ e = .unreadable "BeaconState" cause.message) ∨
      (∀ text, value.member? "slot" ≠ some (.string text)) ∧
        e = .unreadable "BeaconState" "missing slot") ∧
    (∀ n fork fork' before after value, before.length = 40 →
      value.member? "slot" = some (.string (Numeral.write n)) →
      BeaconState.slot ⟨fork, .ssz (before ++ (ByteVector.ofUInt64 n).toList ++ after)⟩ = .ok n ∧
        BeaconState.slot ⟨fork', .json value⟩ = .ok n) ∧
    ∀ reply, reply.fork? = none →
      decode (.state id) reply = .error (.missingFork "BeaconState") := by
  refine ⟨fun _ _ _ => readState_ssz_eq_ok_iff, fun _ _ => BeaconState.exists_slot_ssz,
    fun _ _ _ => readState_json_eq_ok_iff, fun _ _ _ => exists_slot_of_readState,
    fun _ _ _ => BeaconState.slot_json_eq_error_iff, ?_, fun _ => readState_of_fork?_eq_none⟩
  intro n fork fork' before after value hbefore hmember
  refine ⟨BeaconState.slot_ssz_append hbefore, BeaconState.slot_json_eq_ok_iff.2
    ⟨_, hmember, ?_⟩⟩
  rw [← Numeral.read_eq_ok_iff, Numeral.read_write]

/-- A payload with two members `slot`. -/
def twoSlots : Bytes :=
  Utf8.encode "\x7b\"data\": \x7b\"slot\": 7, \"sl\\u006ft\": \"+0300\"\x7d\x7d"

/-- The last one tells the slot, and so do the octets 44 and 1 in serialized bytes. -/
theorem reads_states_twice :
    (∃ state, decode (.state "head") (.success .json (some .deneb) twoSlots) = .ok state ∧
      BeaconState.slot state = .ok 300 ∧
      ∃ items, Json.IsResponse (.object items true) twoSlots) ∧
    (∃ n, BeaconState.slot ⟨.deneb, .ssz (List.replicate 40 9 ++ [44, 1, 0, 0, 0, 0, 0, 0])⟩ =
      .ok n ∧ n.toNat = 300) ∧
    (BeaconState.slot
      ⟨.deneb, .ssz (List.replicate 40 9 ++ (ByteVector.ofUInt64 300).toList ++ [5])⟩ = .ok 300 ∧
      BeaconState.slot ⟨.fulu, .json (.object [("slot", .string "300")])⟩ = .ok 300) ∧
    decode (.state "head") .notFound = .error (.missingFork "BeaconState") := by
  obtain ⟨-, serialized, -, told, -, same, missing⟩ := reads_states "head"
  have read : decode (.state "head") (.success .json (some .deneb) twoSlots) =
      .ok ⟨.deneb, .json (.object [("slot", .string "+0300")])⟩ := by
    rfl
  obtain ⟨items, response, -⟩ := told _ _ _ read
  obtain ⟨n, hslot, hn⟩ := serialized .deneb
    (List.replicate 40 9 ++ [44, 1, 0, 0, 0, 0, 0, 0]) (by decide)
  exact ⟨⟨_, read, rfl, items, response⟩, ⟨n, hslot, hn.trans (by decide)⟩,
    same 300 .deneb .fulu _ [5] _ (by decide) rfl, missing _ rfl⟩

end Request

end Beacon
