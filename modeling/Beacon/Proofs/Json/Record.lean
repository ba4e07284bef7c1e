import Beacon.Json.Record
import Beacon.Proofs.Json.Document

/-!
# Records read from objects

A record is read from an object member by member, in the order of the text. What comes out depends
on the members with each name alone: `Row.Reads` says what they have to be, and
`Codec.record_read_object` that this is all, besides that members with other names have readable
keys and whole values. So neither the order of members nor members of other names matter.

The reader keeps a slot for each member of the record. `Slots.Rel` relates slots member by member,
and `Member.Takes` says what becomes of one slot when some values are read into it. `IsObject` says
what a text has to be to spell an object, and `Codec.decode_record` that records are decoded from
it.
-/

namespace Beacon.Json

/-- The values of the members with a name. -/
def named (members : List (StringBody × Node)) (name : String) : List Node :=
  members.filterMap fun m => if m.1.toString? = some name then some m.2 else none

theorem named_cons (key : StringBody) (node : Node) (rest : List (StringBody × Node))
    (name : String) :
    named ((key, node) :: rest) name =
      (if key.toString? = some name then [node] else []) ++ named rest name := by
  by_cases h : key.toString? = some name <;> simp [named, h]

/-! ### Slots -/

namespace Member

variable (m : Member)

/-- What becomes of a slot when some values are read into it: at most one can be. -/
def Takes : (nodes : List Node) → (slot slot' : Option m.Value) → Prop
  | [], slot, slot' => slot' = slot
  | node :: rest, slot, slot' =>
    slot = none ∧ rest = [] ∧ ∃ value, m.codec.read node = .ok value ∧ slot' = some value

theorem takes_append (nodes nodes' : List Node) (slot slot' : Option m.Value) :
    m.Takes (nodes ++ nodes') slot slot' ↔
      ∃ between, m.Takes nodes slot between ∧ m.Takes nodes' between slot' := by
  cases nodes with
  | nil => simp [Takes]
  | cons node rest =>
    simp only [List.cons_append, Takes, List.append_eq_nil_iff]
    constructor
    · rintro ⟨rfl, ⟨rfl, rfl⟩, value, hread, rfl⟩
      exact ⟨_, ⟨rfl, rfl, value, hread, rfl⟩, rfl⟩
    · rintro ⟨_, ⟨rfl, rfl, value, hread, rfl⟩, htakes⟩
      cases nodes' with
      | nil => exact ⟨rfl, ⟨rfl, rfl⟩, value, hread, htakes⟩
      | cons node' rest' => cases htakes.1

end Member

namespace Slots

/-- Slots that are related member by member. -/
def Rel (R : (m : Member) → (slot slot' : Option m.Value) → Prop) :
    (ms : List Member) → (slots slots' : Slots ms) → Prop
  | [], _, _ => True
  | m :: ms, (slot, slots), (slot', slots') => R m slot slot' ∧ Rel R ms slots slots'

variable {R S : (m : Member) → (slot slot' : Option m.Value) → Prop} {ms : List Member}

theorem rel_congr (h : ∀ m ∈ ms, ∀ slot slot', R m slot slot' ↔ S m slot slot')
    (slots slots' : Slots ms) : Rel R ms slots slots' ↔ Rel S ms slots slots' := by
  induction ms with
  | nil => exact Iff.rfl
  | cons m ms ih =>
    exact and_congr (h m List.mem_cons_self _ _)
      (ih (fun m' hm' => h m' (List.mem_cons_of_mem m hm')) _ _)

theorem rel_eq (slots slots' : Slots ms) :
    Rel (fun _ slot slot' => slot' = slot) ms slots slots' ↔ slots' = slots := by
  induction ms with
  | nil => exact ⟨fun _ => rfl, fun _ => trivial⟩
  | cons m ms ih =>
    obtain ⟨slot, slots⟩ := slots
    obtain ⟨slot', slots'⟩ := slots'
    rw [Rel, ih, Prod.mk.injEq]

theorem rel_comp (slots slots' : Slots ms) :
    Rel (fun m slot slot' => ∃ between, R m slot between ∧ S m between slot') ms slots slots' ↔
      ∃ between, Rel R ms slots between ∧ Rel S ms between slots' := by
  induction ms with
  | nil => exact ⟨fun _ => ⟨(), trivial, trivial⟩, fun _ => trivial⟩
  | cons m ms ih =>
    obtain ⟨slot, slots⟩ := slots
    obtain ⟨slot', slots'⟩ := slots'
    rw [Rel, ih]
    constructor
    · rintro ⟨⟨mid, hR, hS⟩, mids, hRs, hSs⟩
      exact ⟨(mid, mids), ⟨hR, hRs⟩, hS, hSs⟩
    · rintro ⟨⟨mid, mids⟩, ⟨hR, hRs⟩, hS, hSs⟩
      exact ⟨⟨mid, hR, hS⟩, mids, hRs, hSs⟩

/-- What becomes of slots when some values are read into each. -/
def Takes (nodes : Member → List Node) : (ms : List Member) → (slots slots' : Slots ms) → Prop :=
  Rel fun m => m.Takes (nodes m)

theorem takes_nil {nodes : Member → List Node} (h : ∀ m ∈ ms, nodes m = [])
    (slots slots' : Slots ms) : Takes nodes ms slots slots' ↔ slots' = slots := by
  rw [← rel_eq, Takes]
  exact rel_congr (fun m hm _ _ => by rw [h m hm, Member.Takes]) _ _

theorem takes_append (nodes nodes' : Member → List Node) (slots slots' : Slots ms) :
    Takes (fun m => nodes m ++ nodes' m) ms slots slots' ↔
      ∃ between, Takes nodes ms slots between ∧ Takes nodes' ms between slots' := by
  unfold Takes
  rw [← rel_comp]
  exact rel_congr (fun m _ _ _ => m.takes_append _ _ _ _) _ _

/-! ### One member of an object -/

theorem put_eq_none_iff (slots : Slots ms) (name : String) (node : Node) :
    put ms slots name node = none ↔ ∀ m ∈ ms, m.name ≠ name := by
  induction ms with
  | nil => simp [put]
  | cons m ms ih =>
    obtain ⟨slot, slots⟩ := slots
    by_cases h : m.name = name
    · cases slot <;> simp [put, h]
    · simp [put, h, ih]

theorem put_eq_ok_iff (distinct : (ms.map Member.name).Nodup) (slots slots' : Slots ms)
    (name : String) (node : Node) :
    put ms slots name node = some (.ok slots') ↔
      (∃ m ∈ ms, m.name = name) ∧
        Takes (fun m => if name = m.name then [node] else []) ms slots slots' := by
  induction ms with
  | nil => simp [put]
  | cons m ms ih =>
    obtain ⟨slot, slots⟩ := slots
    obtain ⟨slot', slots'⟩ := slots'
    rw [List.map_cons, List.nodup_cons] at distinct
    by_cases h : name = m.name
    · -- no other member has this name, so that the other slots stay as they are
      have hothers : Takes (fun m => if name = m.name then [node] else []) ms slots slots' ↔
          slots' = slots := by
        refine takes_nil (fun m' hm' => ?_) slots slots'
        have hne : name ≠ m'.name := by
          rintro rfl
          exact distinct.1 (h ▸ List.mem_map_of_mem hm')
        rw [if_neg hne]
      have hexists : ∃ m' ∈ m :: ms, m'.name = name := ⟨m, List.mem_cons_self, h.symm⟩
      rw [Takes] at hothers ⊢
      rw [Rel, hothers, if_pos h, Member.Takes, iff_true_intro hexists, true_and]
      cases slot with
      | some value => simp [put, h]
      | none =>
        simp only [put, if_pos h.symm]
        cases m.codec.read node with
        | error e => simp [Except.map]
        | ok value => simp [Except.map, eq_comm]
    · have hexists : (∃ m' ∈ m :: ms, m'.name = name) ↔ ∃ m' ∈ ms, m'.name = name := by
        simp [Ne.symm h]
      have hput : put (m :: ms) (slot, slots) name node =
          (put ms slots name node).map fun result => result.map fun slots => (slot, slots) := by
        cases slot <;> simp [put, Ne.symm h]
      rw [Takes] at ih ⊢
      rw [Rel, if_neg h, Member.Takes, hexists, and_left_comm, ← ih distinct.2, hput]
      cases put ms slots name node with
      | none => simp
      | some result => cases result <;> simp [Except.map, eq_comm]

/-! ### All members of an object -/

/-- Members are read one after the other, but what comes out depends on those with each name
alone. -/
theorem readMembers_eq_ok_iff (distinct : (ms.map Member.name).Nodup)
    (members : List (StringBody × Node)) (slots slots' : Slots ms) :
    readMembers ms slots members = .ok slots' ↔
      (∀ m ∈ members, ∃ name, m.1.toString? = some name ∧
        ((∀ d ∈ ms, d.name ≠ name) → m.2.isWhole = true)) ∧
        Takes (fun m => named members m.name) ms slots slots' := by
  induction members generalizing slots with
  | nil =>
    have hnone : Takes (fun m => named [] m.name) ms slots slots' ↔ slots' = slots :=
      takes_nil (fun _ _ => rfl) _ _
    rw [hnone, readMembers, Except.ok.injEq]
    exact ⟨fun h => ⟨nofun, h.symm⟩, fun h => h.2.symm⟩
  | cons member rest ih =>
    obtain ⟨key, node⟩ := member
    simp only [readMembers, named_cons, takes_append, List.forall_mem_cons]
    cases key.toString? with
    | none => simp
    | some name =>
      simp only [Option.some.injEq, exists_eq_left']
      by_cases declared : ∃ d ∈ ms, d.name = name
      · -- the value goes into the slot of the member with this name
        have hput (between : Slots ms) :
            Takes (fun m => if name = m.name then [node] else []) ms slots between ↔
              put ms slots name node = some (.ok between) := by
          rw [put_eq_ok_iff distinct, iff_true_intro declared, true_and]
        have hwhole : ((∀ d ∈ ms, d.name ≠ name) → node.isWhole = true) ↔ True := by
          obtain ⟨d, hd, hname⟩ := declared
          exact iff_true_intro fun hnone => absurd hname (hnone d hd)
        simp only [hput, hwhole, true_and]
        cases hresult : put ms slots name node with
        | none =>
          obtain ⟨d, hd, hname⟩ := declared
          exact absurd hname ((put_eq_none_iff slots name node).1 hresult d hd)
        | some result =>
          cases result with
          | error e => simp
          | ok between => simp [ih]
      · -- the value is skipped
        have hnone : ∀ d ∈ ms, d.name ≠ name := fun d hd hname => declared ⟨d, hd, hname⟩
        have hskip (between : Slots ms) :
            Takes (fun m => if name = m.name then [node] else []) ms slots between ↔
              between = slots :=
          takes_nil (fun d hd => if_neg (hnone d hd).symm) _ _
        simp only [hskip, (put_eq_none_iff slots name node).2 hnone, iff_true_intro hnone,
          true_imp_iff, exists_eq_left]
        cases node.isWhole with
        | false => simp
        | true => simp [ih]

end Slots

/-! ### Records -/

/-- The value of a member of a record, by the values under its name: the only one there is, or if
there is none, the value that stands for a lacking member. -/
def Member.ReadsFrom (m : Member) (nodes : List Node) (value : m.Value) : Prop :=
  (∃ node, nodes = [node] ∧ m.codec.read node = .ok value) ∨
    (nodes = [] ∧ m.absent = some value)

/-- The values of a record by the members of an object. -/
def Row.Reads (members : List (StringBody × Node)) : (ms : List Member) → Row ms → Prop
  | [], _ => True
  | m :: ms, (value, values) =>
    m.ReadsFrom (named members m.name) value ∧ Row.Reads members ms values

theorem Member.exists_takes_iff (m : Member) (nodes : List Node) (value : m.Value) :
    (∃ slot, m.Takes nodes none slot ∧ (slot <|> m.absent) = some value) ↔
      m.ReadsFrom nodes value := by
  match nodes with
  | [] => simp [Takes, ReadsFrom]
  | [node] =>
    simp only [Takes, ReadsFrom, true_and, List.cons.injEq, and_true, reduceCtorEq, false_and,
      or_false, exists_eq_left']
    constructor
    · rintro ⟨_, ⟨value', hread, rfl⟩, heq⟩
      cases heq
      exact hread
    · intro hread
      exact ⟨some value, ⟨value, hread, rfl⟩, rfl⟩
  | node :: node' :: rest => simp [Takes, ReadsFrom]

theorem Slots.complete_cons_eq_ok_iff (m : Member) (ms : List Member) (slot : Option m.Value)
    (slots : Slots ms) (value : m.Value) (values : Row ms) :
    complete (m :: ms) (slot, slots) = .ok (value, values) ↔
      (slot <|> m.absent) = some value ∧ complete ms slots = .ok values := by
  rw [complete]
  cases (slot <|> m.absent) with
  | none => simp
  | some value' => cases complete ms slots <;> simp [Except.map]

theorem Slots.complete_eq_ok_iff {members : List (StringBody × Node)} {ms : List Member}
    (row : Row ms) :
    (∃ slots, Takes (fun m => named members m.name) ms (empty ms) slots ∧
        complete ms slots = .ok row) ↔ Row.Reads members ms row := by
  induction ms with
  | nil => simp [complete, Row.Reads, Takes, Rel]
  | cons m ms ih =>
    obtain ⟨value, values⟩ := row
    rw [Row.Reads, ← ih, ← Member.exists_takes_iff]
    constructor
    · rintro ⟨⟨slot, slots⟩, ⟨htakes, htakess⟩, hcomplete⟩
      obtain ⟨hvalue, hvalues⟩ := (complete_cons_eq_ok_iff ..).1 hcomplete
      exact ⟨⟨slot, htakes, hvalue⟩, slots, htakess, hvalues⟩
    · rintro ⟨⟨slot, htakes, hvalue⟩, slots, htakess, hvalues⟩
      exact ⟨(slot, slots), ⟨htakes, htakess⟩, (complete_cons_eq_ok_iff ..).2 ⟨hvalue, hvalues⟩⟩

/-- A record is read from an object if and only if each of its members is, keys are readable, and
what stands under other names is whole. -/
theorem Codec.record_read_object {structureName : String} {ms : List Member}
    (distinct : (ms.map Member.name).Nodup) (members : List (StringBody × Node)) (closed : Bool)
    (row : Row ms) :
    (record structureName ms).read (.object members closed) = .ok row ↔
      closed = true ∧
        (∀ m ∈ members, ∃ name, m.1.toString? = some name ∧
          ((∀ d ∈ ms, d.name ≠ name) → m.2.isWhole = true)) ∧
        Row.Reads members ms row := by
  have hmembers := Slots.readMembers_eq_ok_iff distinct members (Slots.empty ms)
  rw [← Slots.complete_eq_ok_iff]
  simp only [record]
  cases hread : Slots.readMembers ms (Slots.empty ms) members with
  | error e =>
    constructor
    · nofun
    · rintro ⟨-, hall, slots, htakes, -⟩
      rw [(hmembers slots).2 ⟨hall, htakes⟩] at hread
      cases hread
  | ok slots =>
    obtain ⟨hall, htakes⟩ := (hmembers slots).1 hread
    cases closed with
    | false => simp
    | true =>
      simp only [if_true, true_and]
      constructor
      · exact fun hcomplete => ⟨hall, slots, htakes, hcomplete⟩
      · rintro ⟨-, slots', htakes', hcomplete⟩
        have hread' := (hmembers slots').2 ⟨hall, htakes'⟩
        rw [hread] at hread'
        cases hread'
        exact hcomplete

/-! ### Texts of objects -/

/-- A text that spells an object with readable keys, in whatever way. -/
structure IsObject (members : List (StringBody × Node)) (text : Bytes) : Prop where
  /-- The values of the members go to their ends. -/
  complete : Node.areCompleteMembers members = true
  /-- The keys are readable. -/
  readable : ∀ m ∈ members, m.1.toString?.isSome = true
  /-- The text may have blanks between tokens and escapes in strings. -/
  spelling : Token.Spelling (Node.object members true).tokens text

theorem IsObject.isJson {members : List (StringBody × Node)} {text : Bytes}
    (object : IsObject members text) : (Node.object members true).IsJson text :=
  ⟨by simpa [Node.isComplete] using object.complete, object.spelling.isText⟩

/-- The compact text of an object. -/
theorem isObject_write {members : List (StringBody × Node)}
    (h : (Node.object members true).IsWritable)
    (readable : ∀ m ∈ members, m.1.toString?.isSome = true) :
    IsObject members (Node.object members true).write :=
  ⟨by simpa [Node.isComplete] using h.complete, readable, Node.spelling_write h.tokens⟩

theorem Node.isWhole_of_areCompleteMembers {members : List (StringBody × Node)}
    (h : areCompleteMembers members = true) {m : StringBody × Node} (hm : m ∈ members) :
    m.2.isWhole = true := by
  induction members with
  | nil => cases hm
  | cons member rest ih =>
    obtain ⟨key, value⟩ := member
    simp only [areCompleteMembers, Bool.and_eq_true] at h
    rcases List.mem_cons.1 hm with rfl | hm
    · exact isWhole_of_isComplete h.1
    · exact ih h.2 hm

/-- A JSON text is decoded as its value is read. -/
theorem Codec.decode_of_isJson {α : Type} (codec : Codec α) {node : Node} {text : Bytes}
    (h : node.IsJson text) : codec.decode text = codec.read node := by
  rw [decode, (Document.parse_eq_iff.2 h).1, decodeDocument]
  cases codec.read node <;> rfl

/-- A record is decoded from the text of an object if each of its members is read. -/
theorem Codec.decode_record {β : Type} {structureName : String} {ms : List Member}
    (distinct : (ms.map Member.name).Nodup) {forth : Row ms → β} {back : β → Row ms}
    {members : List (StringBody × Node)} {text : Bytes} (object : IsObject members text)
    {row : Row ms} (h : Row.Reads members ms row) :
    ((record structureName ms).iso forth back).decode text = .ok (forth row) := by
  have hread : (record structureName ms).read (.object members true) = .ok row := by
    refine (record_read_object distinct members true row).2 ⟨rfl, fun m hm => ?_, h⟩
    obtain ⟨name, hname⟩ := Option.isSome_iff_exists.1 (object.readable m hm)
    exact ⟨name, hname, fun _ => Node.isWhole_of_areCompleteMembers object.complete hm⟩
  rw [decode_of_isJson _ object.isJson]
  simp only [iso, hread, Except.map]

/-- A record with one member is decoded from the text of an object if this member stands in it once
and is read. -/
theorem Codec.decode_single {β : Type} {structureName : String} {m : Member} {forth : Row [m] → β}
    {back : β → Row [m]} {members : List (StringBody × Node)} {text : Bytes}
    (object : IsObject members text) {node : Node} (h : named members m.name = [node])
    {value : m.Value} (hread : m.codec.read node = .ok value) :
    ((record structureName [m]).iso forth back).decode text = .ok (forth (value, ())) :=
  decode_record (by simp) object ⟨.inl ⟨node, h, hread⟩, trivial⟩

end Beacon.Json
