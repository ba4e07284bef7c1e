import Beacon.Proofs.Json.Record

/-!
# Reading whole texts

A record is only read from a container whose end was reached, so that the texts it is decoded from
are JSON texts: `Codec.decode_eq_ok_iff` says that decoding a text is reading the value that it is
a JSON text of. What a record is read from is told by `Codec.record_read_object` for objects and by
`Codec.record_read_array` for arrays.
-/

namespace Beacon.Json

variable {α β : Type} {text : Bytes} {node : Node}

/-- The keys of an object are texts. -/
def AreReadable (members : List (StringBody × Node)) : Prop :=
  ∀ m ∈ members, m.1.toString?.isSome = true

/-! ### Arrays -/

/-- The values of a record by the items of an array. -/
def Row.ReadsItems : (ms : List Member) → List Node → Row ms → Prop
  | [], items, _ => items = []
  | _ :: _, [], _ => False
  | m :: ms, item :: rest, (value, values) =>
    m.codec.read item = .ok value ∧ Row.ReadsItems ms rest values

theorem Row.readItems_eq_ok_iff {expected : String} {closed : Bool} {ms : List Member}
    {index : Nat} {items : List Node} {row : Row ms} :
    Row.readItems expected closed ms index items = .ok row ↔
      closed = true ∧ Row.ReadsItems ms items row := by
  induction ms generalizing index items with
  | nil =>
    cases items with
    | nil => cases closed <;> simp [readItems, ReadsItems]
    | cons item rest => simp [readItems, ReadsItems]
  | cons m ms ih =>
    obtain ⟨value, values⟩ := row
    cases items with
    | nil => simp [readItems, ReadsItems]
    | cons item rest =>
      rw [readItems, ReadsItems]
      cases m.codec.read item with
      | error e => simp
      | ok found =>
        have hrest : readItems expected closed ms (index + 1) rest = .ok values ↔
            closed = true ∧ ReadsItems ms rest values := ih
        rw [and_left_comm, ← hrest]
        cases readItems expected closed ms (index + 1) rest <;> simp [Except.map]

namespace Codec

/-- A record is read from an array if and only if its members are read from the items in their
order. -/
theorem record_read_array {structureName : String} {ms : List Member} {items : List Node}
    {closed : Bool} {row : Row ms} :
    (record structureName ms).read (.array items closed) = .ok row ↔
      closed = true ∧ Row.ReadsItems ms items row :=
  Row.readItems_eq_ok_iff

/-- What is put together comes from what it is taken apart into, and from nothing else. -/
theorem map_eq_ok_iff {result : Except Error α} {forth : α → β} {back : β → α}
    (left : ∀ row, back (forth row) = row) (right : ∀ value, forth (back value) = value)
    {value : β} : result.map forth = .ok value ↔ result = .ok (back value) := by
  cases result with
  | error e => simp [Except.map]
  | ok row =>
    rw [Except.map, Except.ok.injEq, Except.ok.injEq]
    constructor
    · rintro rfl
      exact (left row).symm
    · rintro rfl
      exact right value

/-- A structure is read if and only if its row is. -/
theorem iso_read_eq_ok_iff {codec : Codec α} {forth : α → β} {back : β → α}
    (left : ∀ row, back (forth row) = row) (right : ∀ value, forth (back value) = value)
    {value : β} :
    (codec.iso forth back).read node = .ok value ↔ codec.read node = .ok (back value) :=
  map_eq_ok_iff left right

/-- So it is in a whole text. -/
theorem iso_decode_eq_ok_iff {codec : Codec α} {forth : α → β} {back : β → α}
    (left : ∀ row, back (forth row) = row) (right : ∀ value, forth (back value) = value)
    {value : β} :
    (codec.iso forth back).decode text = .ok value ↔ codec.decode text = .ok (back value) := by
  have hdecode : (codec.iso forth back).decode text = (codec.decode text).map forth := by
    simp only [decode, decodeDocument, iso]
    cases codec.read (Document.parse text).root with
    | error e => rfl
    | ok row => cases (Document.parse text).rest.isEmpty <;> simp [Except.map]
  rw [hdecode, map_eq_ok_iff left right]

/-! ### Lists -/

/-- Items are read if and only if each of them is, and the values keep their order. -/
theorem readAll_eq_ok_iff {codec : Codec α} {done out : List α} {items : List Node} :
    readAll codec done items = .ok out ↔
      ∃ values, out = done.reverse ++ values ∧ items.map codec.read = values.map .ok := by
  induction items generalizing done with
  | nil => simp [readAll, eq_comm]
  | cons item rest ih =>
    rw [readAll]
    cases hitem : codec.read item with
    | error e =>
      refine ⟨nofun, ?_⟩
      rintro ⟨values, -, hall⟩
      obtain ⟨value, more, -, hvalue, -⟩ := List.map_eq_cons_iff.1 hall.symm
      rw [hitem] at hvalue
      cases hvalue
    | ok value =>
      simp only
      rw [ih]
      constructor
      · rintro ⟨values, rfl, hrest⟩
        exact ⟨value :: values, by simp, by simp [hitem, hrest]⟩
      · rintro ⟨values, rfl, hall⟩
        obtain ⟨first, more, rfl, hfirst, hmore⟩ := List.map_eq_cons_iff.1 hall.symm
        rw [hitem] at hfirst
        cases hfirst
        exact ⟨more, by simp, hmore.symm⟩

/-- A list is read from an array whose end was reached if and only if each item is read. -/
theorem list_read_eq_ok_iff {codec : Codec α} {values : List α} :
    (list codec).read node = .ok values ↔
      ∃ items, node = .array items true ∧ items.map codec.read = values.map .ok := by
  cases node with
  | array items closed =>
    have hitems : readAll codec [] items = .ok values ↔
        items.map codec.read = values.map .ok := by
      simp [readAll_eq_ok_iff]
    simp only [list, Node.array.injEq, exists_eq_left', and_assoc]
    rw [and_comm, ← hitems]
    cases closed with
    | true => cases readAll codec [] items <;> simp
    | false => cases readAll codec [] items <;> simp
  | null | bool | number | string | object | broken => simp [list]

/-! ### Lists of texts -/

/-- Texts are converted if and only if each of them is, and the values keep their order. -/
theorem readEach_eq_ok_iff {parse : String → Except Error α} {done out : List α}
    {items : List String} :
    readEach parse done items = .ok out ↔
      ∃ values, out = done.reverse ++ values ∧ items.map parse = values.map .ok := by
  induction items generalizing done with
  | nil => simp [readEach, eq_comm]
  | cons item rest ih =>
    rw [readEach]
    cases hitem : parse item with
    | error e =>
      refine ⟨nofun, ?_⟩
      rintro ⟨values, -, hall⟩
      cases values with
      | nil => cases hall
      | cons first values =>
        rw [List.map_cons, hitem] at hall
        cases hall
    | ok value =>
      simp only
      rw [ih]
      constructor
      · rintro ⟨values, rfl, hrest⟩
        exact ⟨value :: values, by simp, by simp [hitem, hrest]⟩
      · rintro ⟨values, rfl, hall⟩
        cases values with
        | nil => cases hall
        | cons first values =>
          rw [List.map_cons, List.map_cons, hitem, List.cons.injEq, Except.ok.injEq] at hall
          obtain ⟨rfl, hrest⟩ := hall
          exact ⟨values, by simp, hrest⟩

theorem texts_read_eq_ok_iff (format : α → String) {parse : String → Except Error α}
    {values : List α} :
    (texts format parse).read node = .ok values ↔
      ∃ items, (list Codec.text).read node = .ok items ∧ items.map parse = values.map .ok := by
  simp only [texts]
  cases (list Codec.text).read node with
  | error e => simp
  | ok items => simp [readEach_eq_ok_iff]

theorem ofText_read_eq_ok_iff (format : α → String) {parse : String → Except Error α} {value : α} :
    (ofText format parse).read node = .ok value ↔
      ∃ item, Codec.text.read node = .ok item ∧ parse item = .ok value := by
  simp only [ofText]
  cases Codec.text.read node <;> simp

/-- A list of texts is converted if and only if each item is read and converted by itself. -/
theorem texts_read_eq_list_read (format : α → String) {parse : String → Except Error α}
    {values : List α} :
    (texts format parse).read node = .ok values ↔
      (list (ofText format parse)).read node = .ok values := by
  -- reading all items and then converting them all, against doing both for one after the other
  have hitems {nodes : List Node} {values : List α} :
      (∃ items : List String, nodes.map Codec.text.read = items.map .ok ∧
          items.map parse = values.map .ok) ↔
        nodes.map (ofText format parse).read = values.map .ok := by
    induction nodes generalizing values with
    | nil => simp [eq_comm]
    | cons node rest ih =>
      constructor
      · rintro ⟨items, hread, hparse⟩
        obtain ⟨item, more, rfl, hitem, hmore⟩ := List.map_eq_cons_iff.1 hread.symm
        obtain ⟨value, values, rfl, hvalue, hvalues⟩ := List.map_eq_cons_iff.1 hparse.symm
        rw [List.map_cons, List.map_cons, ih.1 ⟨more, hmore.symm, hvalues.symm⟩,
          (ofText_read_eq_ok_iff format).2 ⟨item, hitem.symm, hvalue.symm⟩]
      · intro h
        obtain ⟨value, values, rfl, hvalue, hvalues⟩ := List.map_eq_cons_iff.1 h.symm
        obtain ⟨item, hitem, hparse⟩ := (ofText_read_eq_ok_iff format).1 hvalue.symm
        obtain ⟨more, hread, hmore⟩ := ih.2 hvalues.symm
        exact ⟨item :: more, by simp [hitem, hread], by simp [hparse, hmore]⟩
  rw [texts_read_eq_ok_iff, list_read_eq_ok_iff]
  simp only [list_read_eq_ok_iff, ← hitems]
  constructor
  · rintro ⟨items, ⟨nodes, hnode, hread⟩, hparse⟩
    exact ⟨nodes, hnode, items, hread, hparse⟩
  · rintro ⟨nodes, hnode, items, hread, hparse⟩
    exact ⟨items, ⟨nodes, hnode, hread⟩, hparse⟩

/-! ### Whole values -/

/-- A codec that reads no value whose end was not reached. -/
def ReadsWhole (codec : Codec α) : Prop :=
  ∀ node value, codec.read node = .ok value → node.isWhole = true

theorem readsWhole_record (structureName : String) (ms : List Member) :
    (record structureName ms).ReadsWhole := by
  intro node row h
  cases node with
  | array items closed => exact (record_read_array.1 h).1
  | object members closed =>
    simp only [record] at h
    split at h
    · cases h
    · cases closed with
      | true => rfl
      | false => cases h
  | null | bool | number | string | broken => cases h

/-- A text is decoded if and only if it is a JSON text of something that is read. -/
theorem decode_eq_ok_iff {codec : Codec α} (whole : codec.ReadsWhole) {value : α} :
    codec.decode text = .ok value ↔ ∃ node, node.IsJson text ∧ codec.read node = .ok value := by
  constructor
  · intro h
    cases hparse : Document.parse text with
    | mk root rest =>
      rw [decode, hparse, decodeDocument] at h
      cases hread : codec.read root with
      | error e =>
        rw [hread] at h
        cases h
      | ok found =>
        cases rest with
        | cons token rest =>
          rw [hread] at h
          cases h
        | nil =>
          rw [hread] at h
          cases h
          exact ⟨root, Document.parse_eq_iff.1 ⟨hparse, whole root _ hread⟩, hread⟩
  · rintro ⟨node, isJson, hread⟩
    rw [codec.decode_of_isJson isJson, hread]

end Codec

/-! ### Records with one member -/

/-- A text in which a member of a record stands alone: an object with this member and others, or an
array of its value alone. -/
inductive Member.IsReadAlone (m : Member) (value : m.Value) (text : Bytes) : Prop where
  /-- An object with readable keys, from which the member is read. -/
  | object {members : List (StringBody × Node)} (isJson : (Node.object members true).IsJson text)
    (readable : AreReadable members) (reads : m.ReadsFrom (named members m.name) value)
  /-- An array of one item, from which the member is read. -/
  | array {item : Node} (isJson : (Node.array [item] true).IsJson text)
    (read : m.codec.read item = .ok value)

/-- A record with one member is decoded if and only if this member is read alone. -/
theorem Codec.decode_single_eq_ok_iff {structureName : String} {m : Member} {row : Row [m]} :
    (Codec.record structureName [m]).decode text = .ok row ↔ m.IsReadAlone row.1 text := by
  obtain ⟨value, ⟨⟩⟩ := row
  rw [Codec.decode_eq_ok_iff (Codec.readsWhole_record _ _)]
  constructor
  · rintro ⟨node, isJson, hread⟩
    cases node with
    | object members closed =>
      obtain ⟨rfl, hkeys, reads, -⟩ := (Codec.record_read_object (by simp) _ _ _).1 hread
      refine .object isJson (fun m' hm' => ?_) reads
      obtain ⟨name, hname, -⟩ := hkeys m' hm'
      exact Option.isSome_iff_exists.2 ⟨name, hname⟩
    | array items closed =>
      obtain ⟨rfl, hitems⟩ := Codec.record_read_array.1 hread
      cases items with
      | nil => exact hitems.elim
      | cons item rest =>
        obtain ⟨hitem, rfl⟩ := hitems
        exact .array isJson hitem
    | null | bool | number | string | broken => cases hread
  · rintro (⟨isJson, readable, reads⟩ | ⟨isJson, hitem⟩)
    · refine ⟨_, isJson, (Codec.record_read_object (by simp) _ _ _).2 ⟨rfl, fun m' hm' => ?_, reads,
        trivial⟩⟩
      obtain ⟨name, hname⟩ := Option.isSome_iff_exists.1 (readable m' hm')
      exact ⟨name, hname, fun _ => Node.isWhole_of_areCompleteMembers isJson.complete hm'⟩
    · exact ⟨_, isJson, Codec.record_read_array.2 ⟨rfl, hitem, rfl⟩⟩

end Beacon.Json
