import Beacon.Proofs.Json.Reading
import Mathlib.Data.List.Nodup
import Mathlib.Logic.Relation

/-!
# Structures read from objects

The fields of a structure are read from the members of an object with their names. `Field.Read` says
what an object has to contain for each field: exactly one member with its name, whose value is read
as the value of the field. For a codec that puts a structure together from its fields
(`Codec.IsStructure`) this is all that matters in a text whose value is an object.

* `Codec.IsStructure.decode_iff`: a text is decoded if and only if it is the JSON text of an object
  with readable keys that contains the fields;
* `Codec.IsStructure.decode_congr`: the members may be put in another order and others put in,
  removed or changed, in the object itself and in those that are values of fields (`Field.Edit`);
* `Codec.data_read_eq`: of a response, only the value under `data` is read.
-/

namespace Beacon.Json

variable {α : Type} {text : Bytes} {node : Node} {members members' : List (StringBody × Node)}

/-! ### Texts of objects -/

/-- A text whose value starts as an object does. -/
def StartsObject (text : Bytes) : Prop := (text.dropWhile Token.isBlank).head? = some 0x7B

theorem Token.Text.eq_openObject {token : Token} {rest : List Token}
    (h : Token.Text (token :: rest) text) (starts : StartsObject text) : token = .openObject := by
  cases h with
  | @cons blanks written more _ _ hblanks writes apart =>
    rw [StartsObject, Token.dropWhile_isBlank hblanks writes] at starts
    obtain ⟨tail, htail⟩ := List.head?_eq_some_iff.1 starts
    have hnext := Token.next?_complete writes apart
    rw [htail] at hnext
    cases hnext
    rfl

/-- A JSON text that starts as an object is the text of one. -/
theorem Node.IsJson.exists_members (h : node.IsJson text) (starts : StartsObject text) :
    ∃ members, node = .object members true := by
  have first {token : Token} {rest : List Token} (htokens : node.tokens = token :: rest) :
      token = .openObject := Token.Text.eq_openObject (htokens ▸ h.isText) starts
  have complete := h.complete
  cases node with
  | object members closed =>
    simp only [isComplete, Bool.and_eq_true] at complete
    exact ⟨members, by rw [complete.1]⟩
  | null | bool | number | string | array | broken => cases first rfl

/-- A response with a value: an object with the value under the only member `data`, or an array of
the value alone. -/
inductive IsResponse (node : Node) (text : Bytes) : Prop where
  /-- An object with readable keys, one of them `data`. -/
  | object {members : List (StringBody × Node)} (isJson : (Node.object members true).IsJson text)
    (readable : AreReadable members) (only : named members "data" = [node])
  /-- An array of one item. -/
  | array (isJson : (Node.array [node] true).IsJson text)

/-! ### Fields -/

/-- A field of a structure. -/
structure Field (α : Type) where
  name : String
  Value : Type
  codec : Codec Value
  get : α → Value

/-- Two values that a codec cannot tell apart. -/
def Codec.Alike (codec : Codec α) (node node' : Node) : Prop :=
  ∀ value, codec.read node = .ok value ↔ codec.read node' = .ok value

namespace Field

/-- The member of a record that a field is. -/
def member (field : Field α) : Member :=
  { name := field.name, Value := field.Value, codec := field.codec }

/-- The values of fields. -/
def row : (fields : List (Field α)) → α → Row (fields.map member)
  | [], _ => ()
  | field :: fields, value => (field.get value, row fields value)

/-- An object contains the fields of a structure: each of them is read from the only member with its
name. -/
def Read (fields : List (Field α)) (members : List (StringBody × Node)) (value : α) : Prop :=
  ∀ field ∈ fields, ∃ node, named members field.name = [node] ∧
    field.codec.read node = .ok (field.get value)

theorem reads_row_iff {fields : List (Field α)} {value : α} :
    Row.Reads members (fields.map member) (row fields value) ↔ Read fields members value := by
  induction fields with
  | nil => exact iff_of_true trivial nofun
  | cons field fields ih =>
    have hfield : field.member.ReadsFrom (named members field.name) (field.get value) ↔
        ∃ node, named members field.name = [node] ∧ field.codec.read node = .ok (field.get value) :=
      or_iff_left (by simp [member])
    rw [Read, List.forall_mem_cons, ← hfield, ← Read, ← ih]
    rfl

/-- An edit of the members of an object that leaves the fields of a structure as they are. -/
inductive Edit (fields : List (Field α)) :
    List (StringBody × Node) → List (StringBody × Node) → Prop where
  /-- The members are put in another order. -/
  | reorder {members members' : List (StringBody × Node)} (perm : members.Perm members') :
    Edit fields members members'
  /-- A member that is no field is put in, with any value. -/
  | insert {members : List (StringBody × Node)} {key : StringBody} {name : String} (node : Node)
    (hname : key.toString? = some name) (other : ∀ field ∈ fields, field.name ≠ name) :
    Edit fields members ((key, node) :: members)
  /-- The value of a field is replaced by one that is read alike. -/
  | replace {members : List (StringBody × Node)} {key : StringBody} {field : Field α}
    {node node' : Node} (mem : field ∈ fields) (hname : key.toString? = some field.name)
    (alike : field.codec.Alike node node') :
    Edit fields ((key, node) :: members) ((key, node') :: members)

variable {fields : List (Field α)}

theorem Edit.areReadable_iff (edit : Edit fields members members') :
    AreReadable members ↔ AreReadable members' := by
  cases edit with
  | reorder perm => exact forall_congr' fun m => by rw [perm.mem_iff]
  | insert node hname other => simp [AreReadable, hname]
  | replace mem hname alike => simp [AreReadable, hname]

theorem Edit.read_iff (edit : Edit fields members members')
    (distinct : (fields.map Field.name).Nodup) (value : α) :
    Read fields members value ↔ Read fields members' value := by
  refine forall₂_congr fun field hfield => ?_
  cases edit with
  | reorder perm =>
    have hnamed : (named members field.name).Perm (named members' field.name) :=
      perm.filterMap _
    refine exists_congr fun node => and_congr_left fun _ => ?_
    rw [← List.perm_singleton, ← List.perm_singleton]
    exact ⟨hnamed.symm.trans, hnamed.trans⟩
  | insert node hname other =>
    rw [named_cons, hname, if_neg (by simpa using (other field hfield).symm), List.nil_append]
  | @replace members key edited node node' mem hname alike =>
    rw [named_cons, named_cons, hname]
    by_cases heq : edited.name = field.name
    · obtain rfl := List.inj_on_of_nodup_map distinct mem hfield heq
      simp only [if_true, List.singleton_append, List.cons.injEq]
      constructor
      · rintro ⟨_, ⟨rfl, hnil⟩, hread⟩
        exact ⟨_, ⟨rfl, hnil⟩, (alike _).1 hread⟩
      · rintro ⟨_, ⟨rfl, hnil⟩, hread⟩
        exact ⟨_, ⟨rfl, hnil⟩, (alike _).2 hread⟩
    · have hne : ¬ some edited.name = some field.name := by simpa using heq
      rw [if_neg hne, if_neg hne]

end Field

namespace Codec

/-! ### Structures -/

/-- A codec that puts structures together from their fields. -/
structure IsStructure (codec : Codec α) (fields : List (Field α)) : Prop where
  /-- No two fields have the same name. -/
  distinct : (fields.map Field.name).Nodup
  /-- Structures are read as the records of their fields. -/
  read_iff : ∃ structureName, ∀ node value, codec.read node = .ok value ↔
    (record structureName (fields.map Field.member)).read node = .ok (Field.row fields value)

/-- The field of a response. -/
def dataField (codec : Codec α) : Field α :=
  { name := "data", Value := α, codec := codec, get := id }

/-- A response is a structure with one field. -/
theorem isStructure_data (codec : Codec α) : codec.data.IsStructure [codec.dataField] where
  distinct := by simp
  read_iff := ⟨"DataResponse", fun _ _ => iso_read_eq_ok_iff (fun _ => rfl) fun _ => rfl⟩

namespace IsStructure

variable {codec : Codec α} {fields : List (Field α)}

theorem readsWhole (h : codec.IsStructure fields) : codec.ReadsWhole := by
  obtain ⟨structureName, hread⟩ := h.read_iff
  exact fun node value hvalue => readsWhole_record _ _ _ _ ((hread node value).1 hvalue)

/-- A structure is read from an object that was read to its end if and only if the keys are readable
and the fields are in it. -/
theorem read_object_iff (h : codec.IsStructure fields)
    (complete : Node.areCompleteMembers members = true) {value : α} :
    codec.read (.object members true) = .ok value ↔
      AreReadable members ∧ Field.Read fields members value := by
  obtain ⟨structureName, hread⟩ := h.read_iff
  have distinct : ((fields.map Field.member).map Member.name).Nodup := by
    rw [List.map_map]
    exact h.distinct
  rw [hread, record_read_object distinct, Field.reads_row_iff]
  have hkeys : (∀ m ∈ members, ∃ name, m.1.toString? = some name ∧
      ((∀ d ∈ fields.map Field.member, d.name ≠ name) → m.2.isWhole = true)) ↔
      AreReadable members := by
    refine forall₂_congr fun m hm => ?_
    have hwhole := Node.isWhole_of_areCompleteMembers complete hm
    simp [hwhole, Option.isSome_iff_exists]
  rw [hkeys]
  simp

/-- A text that starts as an object is decoded if and only if it is the JSON text of an object with
readable keys that contains the fields. -/
theorem decode_iff (h : codec.IsStructure fields) (starts : StartsObject text) {value : α} :
    codec.decode text = .ok value ↔
      ∃ members, (Node.object members true).IsJson text ∧ AreReadable members ∧
        Field.Read fields members value := by
  rw [decode_eq_ok_iff h.readsWhole]
  constructor
  · rintro ⟨node, isJson, hread⟩
    obtain ⟨members, rfl⟩ := isJson.exists_members starts
    exact ⟨members, isJson, (h.read_object_iff isJson.complete).1 hread⟩
  · rintro ⟨members, isJson, hread⟩
    exact ⟨_, isJson, (h.read_object_iff isJson.complete).2 hread⟩

/-- What an object contains does not change by edits. -/
theorem contains_congr (h : codec.IsStructure fields)
    (edits : Relation.EqvGen (Field.Edit fields) members members') (value : α) :
    AreReadable members ∧ Field.Read fields members value ↔
      AreReadable members' ∧ Field.Read fields members' value := by
  induction edits with
  | rel _ _ edit => exact and_congr edit.areReadable_iff (edit.read_iff h.distinct value)
  | refl => rfl
  | symm _ _ _ ih => exact ih.symm
  | trans _ _ _ _ _ ih ih' => exact ih.trans ih'

/-- An object is read as before after edits. -/
theorem alike (h : codec.IsStructure fields) (complete : Node.areCompleteMembers members = true)
    (complete' : Node.areCompleteMembers members' = true)
    (edits : Relation.EqvGen (Field.Edit fields) members members') :
    codec.Alike (.object members true) (.object members' true) := by
  intro value
  rw [h.read_object_iff complete, h.read_object_iff complete']
  exact h.contains_congr edits value

/-- So is its text. -/
theorem decode_congr (h : codec.IsStructure fields) {text' : Bytes}
    (isJson : (Node.object members true).IsJson text)
    (isJson' : (Node.object members' true).IsJson text')
    (edits : Relation.EqvGen (Field.Edit fields) members members') (value : α) :
    codec.decode text = .ok value ↔ codec.decode text' = .ok value := by
  rw [codec.decode_of_isJson isJson, codec.decode_of_isJson isJson']
  exact h.alike isJson.complete isJson'.complete edits value

end IsStructure

/-- How the fields of a structure are read from the texts of objects. -/
structure ReadsObjects (codec : Codec α) (fields : List (Field α)) : Prop where
  /-- A text that starts as an object is decoded if and only if it is the JSON text of an object
  with readable keys that contains the fields. -/
  decode_iff : ∀ {text : Bytes}, StartsObject text → ∀ value, codec.decode text = .ok value ↔
    ∃ members, (Node.object members true).IsJson text ∧ AreReadable members ∧
      Field.Read fields members value
  /-- Edits that leave the fields as they are do not change what is decoded. -/
  decode_congr : ∀ {members members' : List (StringBody × Node)} {text text' : Bytes},
    (Node.object members true).IsJson text → (Node.object members' true).IsJson text' →
    Relation.EqvGen (Field.Edit fields) members members' →
    ∀ value, codec.decode text = .ok value ↔ codec.decode text' = .ok value
  /-- Nor do they change what is read where the object is the value of a field. -/
  alike : ∀ {members members' : List (StringBody × Node)},
    Node.areCompleteMembers members = true → Node.areCompleteMembers members' = true →
    Relation.EqvGen (Field.Edit fields) members members' →
    codec.Alike (.object members true) (.object members' true)

theorem IsStructure.readsObjects {codec : Codec α} {fields : List (Field α)}
    (h : codec.IsStructure fields) : codec.ReadsObjects fields where
  decode_iff starts _ := h.decode_iff starts
  decode_congr isJson isJson' edits := h.decode_congr isJson isJson' edits
  alike complete complete' edits := h.alike complete complete' edits

/-! ### Responses -/

/-- A value is decoded from a response if and only if it is read from the value in it. -/
theorem data_decode_eq_ok_iff {codec : Codec α} {value : α} :
    codec.data.decode text = .ok value ↔ ∃ node, IsResponse node text ∧
      codec.read node = .ok value := by
  rw [data, iso_decode_eq_ok_iff (fun _ => rfl) (fun _ => rfl), decode_single_eq_ok_iff]
  constructor
  · rintro (⟨isJson, readable, ⟨node, only, hread⟩ | ⟨-, habsent⟩⟩ | ⟨isJson, hread⟩)
    · exact ⟨node, .object isJson readable only, hread⟩
    · cases habsent
    · exact ⟨_, .array isJson, hread⟩
  · rintro ⟨node, ⟨isJson, readable, only⟩ | isJson, hread⟩
    · exact .object isJson readable (.inl ⟨node, only, hread⟩)
    · exact .array isJson hread

/-- Members with other names leave a slot alone. -/
theorem readMembers_of_named_nil {m : Member} (slots : Slots [m]) (readable : AreReadable members)
    (complete : Node.areCompleteMembers members = true) (h : named members m.name = []) :
    Slots.readMembers [m] slots members = .ok slots := by
  refine (Slots.readMembers_eq_ok_iff (by simp) members slots slots).2 ⟨fun m' hm' => ?_, ?_⟩
  · obtain ⟨name, hname⟩ := Option.isSome_iff_exists.1 (readable m' hm')
    exact ⟨name, hname, fun _ => Node.isWhole_of_areCompleteMembers complete hm'⟩
  · exact (Slots.takes_nil (by simpa using h) slots slots).2 rfl

/-- The only member with a name settles what is read of a record with this member alone. -/
theorem readMembers_of_named_single {m : Member} (readable : AreReadable members)
    (complete : Node.areCompleteMembers members = true) (h : named members m.name = [node]) :
    Slots.readMembers [m] (none, ()) members =
      (m.codec.read node).map fun value => (some value, ()) := by
  induction members with
  | nil => cases h
  | cons member rest ih =>
    obtain ⟨key, found⟩ := member
    obtain ⟨hkey, readable⟩ := List.forall_mem_cons.1 readable
    obtain ⟨name, hname⟩ := Option.isSome_iff_exists.1 hkey
    simp only [Node.areCompleteMembers, Bool.and_eq_true] at complete
    rw [named_cons, hname] at h
    rw [Slots.readMembers]
    simp only [hname]
    by_cases heq : name = m.name
    · obtain ⟨rfl, hrest⟩ : found = node ∧ named rest m.name = [] := by
        simpa [heq] using h
      have hput : Slots.put [m] (none, ()) name found =
          some ((m.codec.read found).map fun value => (some value, ())) := by
        simp [Slots.put, heq]
      rw [hput]
      cases m.codec.read found with
      | error e => rfl
      | ok value => exact readMembers_of_named_nil _ readable complete.2 hrest
    · have hput : Slots.put [m] (none, ()) name found = none := by
        simp [Slots.put, Ne.symm heq]
      rw [hput]
      simp only [Node.isWhole_of_isComplete complete.1, if_true]
      exact ih readable complete.2 (by simpa [heq] using h)

/-- What is read of a response is what is read of the value under `data`, error or not. -/
theorem data_read_eq (codec : Codec α) (readable : AreReadable members)
    (complete : Node.areCompleteMembers members = true) (h : named members "data" = [node]) :
    codec.data.read (.object members true) = codec.read node := by
  have hread := readMembers_of_named_single
    (m := { name := "data", Value := α, codec := codec }) readable complete h
  show ((record "DataResponse" [{ name := "data", Value := α, codec := codec }]).read
    (.object members true)).map _ = _
  simp only [record, Slots.empty, hread]
  cases codec.read node <;> rfl

end Codec

end Beacon.Json
