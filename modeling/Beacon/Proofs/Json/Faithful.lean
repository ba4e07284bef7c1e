import Beacon.Proofs.Json.Record
import Beacon.Proofs.Text.Written

/-!
# Faithful codecs

What a codec writes for a value may come back in another form: objects with their members in another
order and among others. `Node.Shows` allows for that at every depth, and a codec is faithful if it
reads the value from all these forms. Faithful codecs for the members of a record make up a faithful
codec for the record (`Codec.isFaithful_record`), and so do lists, texts and byte strings. The text
of what a codec writes is one of these forms, if it has a text (`Codec.decode_encode`). Codecs with
both properties lose nothing: `Codec.isLossless_record` puts them together.
-/

namespace Beacon.Json

/-! ### Forms of a value -/

namespace Node

mutual

/-- Whether a value is another form of the first one: objects may have their members in any order,
and other members with readable keys and whole values among them. -/
inductive Shows : Node → Node → Prop where
  | null : Shows .null .null
  | bool (value : Bool) : Shows (.bool value) (.bool value)
  | number (text : Bytes) : Shows (.number text) (.number text)
  | string (body : StringBody) : Shows (.string body) (.string body)
  | array {items shown : List Node} (each : ItemsShow items shown) :
    Shows (.array items true) (.array shown true)
  | object {members shown others all : List (StringBody × Node)} (each : MembersShow members shown)
    (perm : all.Perm (shown ++ others))
    (fresh : ∀ m ∈ others, m.2.isWhole = true ∧ ∃ name, m.1.toString? = some name ∧
      ∀ m' ∈ members, m'.1.toString? ≠ some name) :
    Shows (.object members true) (.object all true)

/-- Whether items are other forms of the first ones. -/
inductive ItemsShow : List Node → List Node → Prop where
  | nil : ItemsShow [] []
  | cons {item shown : Node} {items rest : List Node} (first : Shows item shown)
    (each : ItemsShow items rest) : ItemsShow (item :: items) (shown :: rest)

/-- Whether the values of members are other forms of the first ones. -/
inductive MembersShow : List (StringBody × Node) → List (StringBody × Node) → Prop where
  | nil : MembersShow [] []
  | cons (key : StringBody) {value shown : Node} {members rest : List (StringBody × Node)}
    (first : Shows value shown) (each : MembersShow members rest) :
    MembersShow ((key, value) :: members) ((key, shown) :: rest)

end

mutual

/-- A value that was read to its end is a form of itself. -/
theorem shows_self : (node : Node) → node.isComplete = true → node.Shows node
  | .null, _ => .null
  | .bool value, _ => .bool value
  | .number text, _ => .number text
  | .string body, _ => .string body
  | .array items closed, h => by
    simp only [isComplete, Bool.and_eq_true] at h
    obtain ⟨rfl, hitems⟩ := h
    exact .array (itemsShow_self items hitems)
  | .object members closed, h => by
    simp only [isComplete, Bool.and_eq_true] at h
    obtain ⟨rfl, hmembers⟩ := h
    exact .object (membersShow_self members hmembers) (.of_eq (List.append_nil _).symm) nofun

theorem itemsShow_self : (items : List Node) → areComplete items = true → ItemsShow items items
  | [], _ => .nil
  | item :: rest, h => by
    simp only [areComplete, Bool.and_eq_true] at h
    exact .cons (shows_self item h.1) (itemsShow_self rest h.2)

theorem membersShow_self : (members : List (StringBody × Node)) →
    areCompleteMembers members = true → MembersShow members members
  | [], _ => .nil
  | (key, value) :: rest, h => by
    simp only [areCompleteMembers, Bool.and_eq_true] at h
    exact .cons key (shows_self value h.1) (membersShow_self rest h.2)

end

end Node

theorem StringBody.toString?_ofString (text : String) : (ofString text).toString? = some text :=
  Utf8.decode?_encode text

/-! ### Rows -/

theorem named_append (members members' : List (StringBody × Node)) (name : String) :
    named (members ++ members') name = named members name ++ named members' name :=
  List.filterMap_append

theorem Member.readsFrom_perm {m : Member} {nodes nodes' : List Node} (h : nodes.Perm nodes')
    {value : m.Value} (hreads : m.ReadsFrom nodes value) : m.ReadsFrom nodes' value := by
  rcases hreads with ⟨node, rfl, hread⟩ | ⟨rfl, habsent⟩
  · exact .inl ⟨node, List.singleton_perm.1 h |>.symm, hread⟩
  · exact .inr ⟨List.nil_perm.1 h, habsent⟩

/-- The values of a record depend on the values under the names of its members alone, and not on
their order. -/
theorem Row.reads_congr {members members' : List (StringBody × Node)} {ms : List Member}
    (h : ∀ m ∈ ms, (named members m.name).Perm (named members' m.name)) {row : Row ms}
    (hreads : Row.Reads members ms row) : Row.Reads members' ms row := by
  induction ms with
  | nil => trivial
  | cons m ms ih =>
    obtain ⟨value, values⟩ := row
    exact ⟨Member.readsFrom_perm (h m List.mem_cons_self) hreads.1,
      ih (fun m' hm' => h m' (List.mem_cons_of_mem m hm')) hreads.2⟩

namespace Codec

variable {α β : Type}

/-- A codec is faithful if it reads each value from all forms of what it writes for it. -/
def IsFaithful (codec : Codec α) : Prop :=
  ∀ value node, (codec.write value).Shows node → codec.read node = .ok value

theorem named_of_membersShow {ms : List Member} {row : Row ms}
    {shown : List (StringBody × Node)} (h : Node.MembersShow (Row.write ms row) shown)
    {name : String}
    (hname : ∀ m ∈ ms, m.name ≠ name) : named shown name = [] := by
  induction ms generalizing shown with
  | nil => cases h; rfl
  | cons m ms ih =>
    obtain ⟨value, values⟩ := row
    cases h with
    | cons key first each =>
      rw [named_cons, ih each fun m' hm' => hname m' (List.mem_cons_of_mem m hm'),
        StringBody.toString?_ofString, if_neg (by simpa using hname m List.mem_cons_self)]
      rfl

theorem reads_of_membersShow {ms : List Member} (distinct : (ms.map Member.name).Nodup)
    (faithful : ∀ m ∈ ms, m.codec.IsFaithful) {row : Row ms} {shown : List (StringBody × Node)}
    (h : Node.MembersShow (Row.write ms row) shown) : Row.Reads shown ms row := by
  induction ms generalizing shown with
  | nil => trivial
  | cons m ms ih =>
    obtain ⟨value, values⟩ := row
    rw [List.map_cons, List.nodup_cons] at distinct
    cases h with
    | @cons key _ node _ rest first each =>
      have hother (d : Member) (hd : d ∈ ms) : m.name ≠ d.name := fun heq =>
        distinct.1 (heq ▸ List.mem_map_of_mem hd)
      constructor
      · refine .inl ⟨node, ?_, faithful m List.mem_cons_self value node first⟩
        rw [named_cons, StringBody.toString?_ofString, if_pos rfl,
          named_of_membersShow each fun d hd => (hother d hd).symm, List.append_nil]
      · refine Row.reads_congr (fun d hd => .of_eq ?_)
          (ih distinct.2 (fun d hd => faithful d (List.mem_cons_of_mem m hd)) each)
        rw [named_cons, StringBody.toString?_ofString,
          if_neg (by simpa using hother d hd), List.nil_append]

theorem exists_name_of_membersShow {ms : List Member} {row : Row ms}
    {shown : List (StringBody × Node)} (h : Node.MembersShow (Row.write ms row) shown)
    {m : StringBody × Node} (hm : m ∈ shown) : ∃ d ∈ ms, m.1.toString? = some d.name := by
  induction ms generalizing shown with
  | nil => cases h; cases hm
  | cons d ms ih =>
    obtain ⟨value, values⟩ := row
    cases h with
    | cons key first each =>
      rcases List.mem_cons.1 hm with rfl | hm
      · exact ⟨d, List.mem_cons_self, StringBody.toString?_ofString d.name⟩
      · obtain ⟨d', hd', hname⟩ := ih each hm
        exact ⟨d', List.mem_cons_of_mem d hd', hname⟩

theorem exists_mem_write {ms : List Member} (row : Row ms) {d : Member} (hd : d ∈ ms) :
    ∃ m ∈ Row.write ms row, m.1.toString? = some d.name := by
  induction ms with
  | nil => cases hd
  | cons m ms ih =>
    obtain ⟨value, values⟩ := row
    rcases List.mem_cons.1 hd with rfl | hd
    · exact ⟨_, List.mem_cons_self, StringBody.toString?_ofString d.name⟩
    · obtain ⟨m', hm', hname⟩ := ih values hd
      exact ⟨m', List.mem_cons_of_mem _ hm', hname⟩

/-- A record of members with faithful codecs and different names has a faithful codec. -/
theorem isFaithful_record (structureName : String) {ms : List Member}
    (distinct : (ms.map Member.name).Nodup) (faithful : ∀ m ∈ ms, m.codec.IsFaithful) :
    (record structureName ms).IsFaithful := by
  intro row node h
  cases h with
  | @object _ shown others all each perm fresh =>
    have hothers (d : Member) (hd : d ∈ ms) : named others d.name = [] := by
      refine List.filterMap_eq_nil_iff.2 fun m hm => if_neg fun hname => ?_
      obtain ⟨-, name, hm, hfresh⟩ := fresh m hm
      obtain ⟨m', hm', hname'⟩ := exists_mem_write row hd
      exact hfresh m' hm' (hname'.trans (hname.symm.trans hm))
    refine (record_read_object distinct all true row).2 ⟨rfl, fun m hm => ?_, ?_⟩
    · rcases List.mem_append.1 (perm.mem_iff.1 hm) with hm | hm
      · obtain ⟨d, hd, hname⟩ := exists_name_of_membersShow each hm
        exact ⟨d.name, hname, fun hnone => absurd rfl (hnone d hd)⟩
      · obtain ⟨hwhole, name, hname, -⟩ := fresh m hm
        exact ⟨name, hname, fun _ => hwhole⟩
    · refine Row.reads_congr (fun d hd => ?_) (reads_of_membersShow distinct faithful each)
      have hperm : (named all d.name).Perm (named (shown ++ others) d.name) := perm.filterMap _
      rw [named_append, hothers d hd, List.append_nil] at hperm
      exact hperm.symm

/-! ### Other codecs -/

theorem isFaithful_iso {codec : Codec α} (faithful : codec.IsFaithful) {forth : α → β}
    {back : β → α} (h : ∀ value, forth (back value) = value) :
    (codec.iso forth back).IsFaithful := by
  intro value node hshows
  have hread := faithful (back value) node hshows
  show (codec.read node).map forth = .ok value
  rw [hread, Except.map, h]

theorem isFaithful_text : text.IsFaithful := by
  intro value node h
  cases h
  simp only [text, StringBody.toString?_ofString]

theorem isFaithful_bool : bool.IsFaithful := by
  intro value node h
  cases h
  rfl

theorem isFaithful_ofText {format : α → String} {parse : String → Except Error α}
    (h : ∀ value, parse (format value) = .ok value) : (ofText format parse).IsFaithful := by
  intro value node hshows
  have hread := isFaithful_text (format value) node hshows
  simp only [ofText, hread, h]

theorem readHex_encode {n : Nat} (v : ByteVector n) : readHex n (Hex.encode v.toList) = .ok v := by
  rw [readHex, Hex.decodeVector?_encode]

theorem readAll_of_itemsShow {codec : Codec α} (faithful : codec.IsFaithful) {values : List α}
    {shown : List Node} (h : Node.ItemsShow (values.map codec.write) shown) (done : List α) :
    readAll codec done shown = .ok (done.reverse ++ values) := by
  induction values generalizing shown done with
  | nil => cases h; simp [readAll]
  | cons value values ih =>
    cases h with
    | cons first each =>
      rw [readAll, faithful value _ first]
      simp only
      rw [ih each, List.reverse_cons, List.append_assoc, List.singleton_append]

theorem isFaithful_list {codec : Codec α} (faithful : codec.IsFaithful) :
    (list codec).IsFaithful := by
  intro values node h
  cases h with
  | array each => simp [list, readAll_of_itemsShow faithful each]

theorem readEach_map {format : α → String} {parse : String → Except Error α}
    (h : ∀ value, parse (format value) = .ok value) (values done : List α) :
    readEach parse done (values.map format) = .ok (done.reverse ++ values) := by
  induction values generalizing done with
  | nil => simp [readEach]
  | cons value values ih =>
    rw [List.map_cons, readEach, h]
    simp only
    rw [ih, List.reverse_cons, List.append_assoc, List.singleton_append]

theorem isFaithful_texts {format : α → String} {parse : String → Except Error α}
    (h : ∀ value, parse (format value) = .ok value) : (texts format parse).IsFaithful := by
  intro values node hshows
  have hread := isFaithful_list isFaithful_text (values.map format) node hshows
  simp only [texts, hread, readEach_map h]
  rfl

theorem isFaithful_hexVector (n count : Nat) : (hexVector n count).IsFaithful := by
  intro values node hshows
  have hread := isFaithful_texts readHex_encode values.toList node hshows
  simp only [hexVector, hread, Vector.length_toList, dite_true]
  rfl

/-! ### What codecs write -/

/-- A codec is writable if everything that it writes has a text. -/
def IsWritable (codec : Codec α) : Prop := ∀ value, (codec.write value).IsWritable

/-- What a faithful codec writes as text is read back. -/
theorem decode_encode {codec : Codec α} (faithful : codec.IsFaithful) (writable : codec.IsWritable)
    (value : α) : codec.decode (codec.encode value) = .ok value := by
  have hread := faithful value _ (Node.shows_self _ (writable value).complete)
  rw [decode, encode, Node.parse_write (writable value), decodeDocument, hread]
  rfl

theorem isWritable_iso {codec : Codec α} (writable : codec.IsWritable) (forth : α → β)
    (back : β → α) : (codec.iso forth back).IsWritable :=
  fun value => writable (back value)

theorem isWritable_bool : bool.IsWritable :=
  fun _ => ⟨rfl, List.forall_mem_singleton.2 rfl⟩

theorem isWritable_text : text.IsWritable := Node.isWritable_ofString

theorem isWritable_ofText (format : α → String) (parse : String → Except Error α) :
    (ofText format parse).IsWritable :=
  fun value => isWritable_text (format value)

theorem isWritable_list {codec : Codec α} (writable : codec.IsWritable) :
    (list codec).IsWritable := by
  intro values
  refine Node.isWritable_array fun item hitem => ?_
  obtain ⟨value, -, rfl⟩ := List.mem_map.1 hitem
  exact writable value

theorem isWritable_hexVector (n count : Nat) : (hexVector n count).IsWritable :=
  fun values => isWritable_list isWritable_text (values.toList.map _)

theorem isWritable_record (structureName : String) {ms : List Member}
    (writable : ∀ m ∈ ms, m.codec.IsWritable) : (record structureName ms).IsWritable := by
  intro row
  refine Node.isWritable_object fun m hm => ?_
  induction ms with
  | nil => cases hm
  | cons d ms ih =>
    obtain ⟨value, values⟩ := row
    obtain ⟨hfirst, hrest⟩ := List.forall_mem_cons.1 writable
    rcases List.mem_cons.1 hm with rfl | hm
    · exact ⟨rfl, hfirst value⟩
    · exact ih hrest values hm

/-! ### Codecs that lose nothing -/

/-- A codec loses nothing if everything that it writes has a text and is read from all its forms. -/
structure IsLossless (codec : Codec α) : Prop where
  /-- What is written is read. -/
  faithful : codec.IsFaithful
  /-- What is written has a text. -/
  writable : codec.IsWritable

theorem IsLossless.decode_encode {codec : Codec α} (lossless : codec.IsLossless) (value : α) :
    codec.decode (codec.encode value) = .ok value :=
  Codec.decode_encode lossless.faithful lossless.writable value

theorem isLossless_text : text.IsLossless := ⟨isFaithful_text, isWritable_text⟩

theorem isLossless_bool : bool.IsLossless := ⟨isFaithful_bool, isWritable_bool⟩

theorem isLossless_ofText {format : α → String} {parse : String → Except Error α}
    (h : ∀ value, parse (format value) = .ok value) : (ofText format parse).IsLossless :=
  ⟨isFaithful_ofText h, isWritable_ofText format parse⟩

theorem readQuoted_write (n : UInt64) : readQuoted (Numeral.write n) = .ok n := by
  rw [readQuoted, Numeral.read_write]

theorem isLossless_quoted : quoted.IsLossless := isLossless_ofText readQuoted_write

theorem isLossless_quotedList : quotedList.IsLossless :=
  ⟨isFaithful_texts readQuoted_write, fun values => isWritable_list isWritable_text (values.map _)⟩

theorem isLossless_hex (n : Nat) : (hex n).IsLossless := isLossless_ofText readHex_encode

theorem isLossless_hexVector (n count : Nat) : (hexVector n count).IsLossless :=
  ⟨isFaithful_hexVector n count, isWritable_hexVector n count⟩

theorem IsLossless.list {codec : Codec α} (lossless : codec.IsLossless) :
    (Codec.list codec).IsLossless :=
  ⟨isFaithful_list lossless.faithful, isWritable_list lossless.writable⟩

/-- A structure loses nothing as a record if its members have different names, none of them loses
anything, and the structure is put together again from its members. -/
theorem isLossless_record (structureName : String) {ms : List Member} {forth : Row ms → β}
    {back : β → Row ms} (distinct : (ms.map Member.name).Nodup)
    (lossless : ∀ m ∈ ms, m.codec.IsLossless) (h : ∀ value, forth (back value) = value) :
    ((record structureName ms).iso forth back).IsLossless where
  faithful :=
    isFaithful_iso (isFaithful_record structureName distinct fun m hm => (lossless m hm).faithful) h
  writable :=
    isWritable_iso (isWritable_record structureName fun m hm => (lossless m hm).writable) forth back

theorem IsLossless.data {codec : Codec α} (lossless : codec.IsLossless) :
    codec.data.IsLossless := by
  refine isLossless_record "DataResponse" (by simp) ?_ fun _ => rfl
  rw [List.forall_mem_singleton]
  exact lossless

end Codec

end Beacon.Json
