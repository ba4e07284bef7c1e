import Beacon.Chain.BeaconState
import Beacon.Proofs.Json.Faithful
import Beacon.Proofs.Json.Reading
import Mathlib.Data.List.Forall2

/-!
# Decimal numbers

Which texts are read as numbers of 64 bits, and as what. `Numeral.body` is what a text has to say,
without one plus sign at its start, and `Numeral.Denotes` says that it is digits that stand for a
number, of any size. `Numeral.read_eq_ok_iff` says that a number is read if and only if a text
denotes it, and `Numeral.read_eq_tooLarge_iff` when a number is refused for its size. Quoted numbers
in JSON, lists of them and the slot of a state in JSON rest on this one reader.
-/

namespace Beacon

namespace Numeral

/-! ### Texts -/

/-- What a text has to say: the text without one plus sign at its start. -/
def body (text : String) : List Char :=
  match text.toList with
  | '+' :: rest => rest
  | chars => chars

/-- A text denotes a number: after at most one plus sign there are digits, at least one of them and
zeros as many as one likes, that stand for the number. -/
def Denotes (text : String) (n : Nat) : Prop :=
  body text ≠ [] ∧ (∀ c ∈ body text, c.isDigit = true) ∧ Nat.ofDigitChars 10 (body text) 0 = n

theorem read_eq_readDigits {text : String} (h : body text ≠ []) :
    read text = readDigits 0 (body text) := by
  unfold read body at *
  split at h
  · next rest hrest =>
    rw [hrest]
    cases rest with
    | nil => exact absurd rfl h
    | cons c rest => rfl
  · next hplus =>
    match hchars : text.toList with
    | [] => exact absurd hchars h
    | c :: rest =>
      have hc : c ≠ '+' := by
        rintro rfl
        exact hplus rest hchars
      rw [readChars]
      all_goals simp [hc]

/-- A text that says nothing is refused. -/
theorem read_of_body_eq_nil {text : String} (h : body text = []) :
    read text = .error (if text.toList = [] then .empty else .badDigit) := by
  unfold read body at *
  split at h
  · next rest hrest =>
    rw [hrest, h]
    rfl
  · rw [h]
    rfl

/-- A number is read from a text if and only if the text denotes it. -/
theorem read_eq_ok_iff {text : String} {n : UInt64} :
    read text = .ok n ↔ Denotes text n.toNat := by
  by_cases h : body text = []
  · simp [read_of_body_eq_nil h, Denotes, h]
  · rw [read_eq_readDigits h, readDigits_eq_ok_iff, Denotes, and_iff_right h]
    rfl

/-- The numbers that are read are those of 64 bits. -/
theorem exists_read_iff {text : String} :
    (∃ n, read text = .ok n) ↔ ∃ n < UInt64.size, Denotes text n := by
  constructor
  · rintro ⟨n, h⟩
    exact ⟨n.toNat, n.toNat_lt, read_eq_ok_iff.1 h⟩
  · rintro ⟨n, hlt, h⟩
    have htoNat : n.toUInt64.toNat = n := UInt64.toNat_ofNat_of_lt hlt
    exact ⟨n.toUInt64, read_eq_ok_iff.2 (htoNat.symm ▸ h)⟩

/-- All other texts are refused. -/
theorem exists_read_error_iff {text : String} :
    (∃ e, read text = .error e) ↔ ∀ n < UInt64.size, ¬ Denotes text n := by
  have hread : (∃ e, read text = .error e) ↔ ¬ ∃ n, read text = .ok n := by
    cases read text <;> simp
  rw [hread, exists_read_iff]
  simp

/-! ### Refusals -/

/-- Digits after a number are too many if and only if those that come first stand for a number that
64 bits are not enough for. -/
theorem readDigits_eq_tooLarge_iff {text : List Char} {value : UInt64} :
    readDigits value text = .error .tooLarge ↔
      ∃ digits, digits <+: text ∧ (∀ c ∈ digits, c.isDigit = true) ∧
        UInt64.size ≤ Nat.ofDigitChars 10 digits value.toNat := by
  induction text generalizing value with
  | nil =>
    refine iff_of_false (by simp [readDigits]) ?_
    rintro ⟨digits, hdigits, -, hlarge⟩
    rw [List.prefix_nil.1 hdigits] at hlarge
    exact absurd value.toNat_lt (Nat.not_lt.2 hlarge)
  | cons c rest ih =>
    -- 64 bits are enough for the number itself, so that a digit has to follow
    have hfirst : (∃ digits, digits <+: c :: rest ∧ (∀ c ∈ digits, c.isDigit = true) ∧
          UInt64.size ≤ Nat.ofDigitChars 10 digits value.toNat) ↔
        c.isDigit = true ∧ ∃ digits, digits <+: rest ∧ (∀ c ∈ digits, c.isDigit = true) ∧
          UInt64.size ≤ Nat.ofDigitChars 10 digits (10 * value.toNat + (c.toNat - '0'.toNat)) := by
      constructor
      · rintro ⟨digits, hdigits, hall, hlarge⟩
        cases digits with
        | nil => exact absurd value.toNat_lt (Nat.not_lt.2 hlarge)
        | cons d more =>
          obtain ⟨rfl, hmore⟩ := List.cons_prefix_cons.1 hdigits
          rw [List.forall_mem_cons] at hall
          exact ⟨hall.1, more, hmore, hall.2, hlarge⟩
      · rintro ⟨hdigit, digits, hdigits, hall, hlarge⟩
        exact ⟨c :: digits, List.cons_prefix_cons.2 ⟨rfl, hdigits⟩,
          List.forall_mem_cons.2 ⟨hdigit, hall⟩, hlarge⟩
    rw [readDigits, hfirst]
    cases hc : digit? c with
    | none => simp [digit?_eq_none_iff.1 hc]
    | some d =>
      obtain ⟨hdigit, rfl⟩ := digit?_eq_some_iff.1 hc
      simp only [hdigit, true_and]
      split
      · next hsmall => rw [ih, toNat_append_digit hsmall]
      · next hlarge =>
        refine iff_of_true rfl ⟨[], List.nil_prefix, List.forall_mem_nil _, ?_⟩
        rw [Nat.ofDigitChars_nil]
        omega

/-- A number is refused for its size if and only if the digits at its start stand for one that needs
more than 64 bits, whatever comes after them. -/
theorem read_eq_tooLarge_iff {text : String} :
    read text = .error .tooLarge ↔
      ∃ digits, digits <+: body text ∧ (∀ c ∈ digits, c.isDigit = true) ∧
        UInt64.size ≤ Nat.ofDigitChars 10 digits 0 := by
  by_cases h : body text = []
  · rw [read_of_body_eq_nil h, h]
    refine iff_of_false ?_ ?_
    · split <;> nofun
    · rintro ⟨digits, hdigits, -, hlarge⟩
      rw [List.prefix_nil.1 hdigits] at hlarge
      exact absurd hlarge (by decide)
  · rw [read_eq_readDigits h]
    exact readDigits_eq_tooLarge_iff

theorem Denotes.read_eq_tooLarge {text : String} {n : Nat} (h : Denotes text n)
    (large : UInt64.size ≤ n) : read text = .error .tooLarge :=
  read_eq_tooLarge_iff.2 ⟨body text, List.prefix_rfl, h.2.1, h.2.2.symm ▸ large⟩

/-- Every character of a text that denotes a number is a digit or a plus sign. -/
theorem Denotes.isDigit_or {text : String} {n : Nat} (h : Denotes text n) {c : Char}
    (hc : c ∈ text.toList) : c.isDigit = true ∨ c = '+' := by
  obtain ⟨-, hall, -⟩ := h
  unfold body at hall
  split at hall
  · next rest hrest =>
    rw [hrest] at hc
    rcases List.mem_cons.1 hc with rfl | hc
    · exact .inr rfl
    · exact .inl (hall c hc)
  · exact .inl (hall c hc)

/-- Neither a minus sign nor a blank stands in a text that denotes a number. -/
theorem Denotes.not_mem {text : String} {n : Nat} (h : Denotes text n) {c : Char}
    (hc : c = '-' ∨ Text.isBlank c = true) : c ∉ text.toList := by
  intro hmem
  rcases h.isDigit_or hmem with hdigit | rfl
  · rcases hc with rfl | hblank
    · exact absurd hdigit (by decide)
    · have hrange : 48 ≤ c.toNat ∧ c.toNat ≤ 57 := by
        simp only [Char.isDigit, Bool.and_eq_true, decide_eq_true_eq] at hdigit
        exact hdigit
      simp [Text.isBlank] at hblank
      omega
  · exact absurd hc (by decide)

end Numeral

/-! ### Numbers in JSON -/

namespace Json

/-- A JSON value quotes a number: it is a string whose text denotes the number. -/
def Node.Quotes (node : Node) (n : Nat) : Prop :=
  ∃ body text, node = .string body ∧ body.toString? = some text ∧ Numeral.Denotes text n

namespace Codec

theorem readQuoted_eq_ok_iff {text : String} {n : UInt64} :
    readQuoted text = .ok n ↔ Numeral.Denotes text n.toNat := by
  rw [← Numeral.read_eq_ok_iff, readQuoted]
  cases Numeral.read text <;> simp

/-- A number is read from a JSON value if and only if the value quotes it. -/
theorem quoted_read_eq_ok_iff {node : Node} {n : UInt64} :
    quoted.read node = .ok n ↔ node.Quotes n.toNat := by
  unfold Node.Quotes
  cases node with
  | string body =>
    simp only [quoted, ofText, Codec.text, Node.string.injEq]
    cases htext : body.toString? with
    | none => simp [htext]
    | some text => simp [htext, readQuoted_eq_ok_iff]
  | null | bool | number | array | object | broken => simp [quoted, ofText, Codec.text]

/-- A list of numbers is read if and only if each item quotes one, and the numbers keep their
order. -/
theorem quotedList_read_eq_ok_iff {node : Node} {values : List UInt64} :
    quotedList.read node = .ok values ↔
      ∃ items, node = .array items true ∧
        List.Forall₂ (fun item n => item.Quotes n.toNat) items values := by
  rw [quotedList, texts_read_eq_list_read, ← quoted, list_read_eq_ok_iff]
  simp only [← quoted_read_eq_ok_iff, ← List.forall₂_eq_eq_eq, List.forall₂_map_left_iff,
    List.forall₂_map_right_iff]

/-- A list is refused if its end is not reached or if an item quotes no number of 64 bits. -/
theorem quotedList_read_eq_error_iff {items : List Node} {closed : Bool} :
    (∃ e, quotedList.read (.array items closed) = .error e) ↔
      closed = false ∨ ∃ item ∈ items, ∀ n < UInt64.size, ¬ item.Quotes n := by
  have hread : (∃ values, quotedList.read (.array items closed) = .ok values) ↔
      closed = true ∧ ∀ item ∈ items, ∃ n < UInt64.size, item.Quotes n := by
    constructor
    · rintro ⟨values, h⟩
      obtain ⟨_, hnode, hall⟩ := quotedList_read_eq_ok_iff.1 h
      cases hnode
      have hboth : List.Forall₂
          (fun item n => (∃ n < UInt64.size, item.Quotes n) ∧ item.Quotes n.toNat) items values :=
        hall.imp fun _ n h => ⟨⟨n.toNat, n.toNat_lt, h⟩, h⟩
      exact ⟨rfl, ((List.forall₂_and_left _ _).1 hboth).1⟩
    · rintro ⟨rfl, hall⟩
      choose! n hlt hquotes using hall
      refine ⟨items.map fun item => (n item).toUInt64, quotedList_read_eq_ok_iff.2
        ⟨items, rfl, List.forall₂_map_right_iff.2 (List.forall₂_same.2 fun item hitem => ?_)⟩⟩
      have htoNat : (n item).toUInt64.toNat = n item := UInt64.toNat_ofNat_of_lt (hlt item hitem)
      rw [htoNat]
      exact hquotes item hitem
  have herror : (∃ e, quotedList.read (.array items closed) = .error e) ↔
      ¬ ∃ values, quotedList.read (.array items closed) = .ok values := by
    cases quotedList.read (.array items closed) <;> simp
  rw [herror, hread]
  simp [imp_iff_not_or]

end Codec

end Json

/-- The slot of a state in JSON is read if and only if the text of its member denotes it. -/
theorem BeaconState.slot_json_eq_ok_iff {fork : Fork} {value : Json.Value} {n : UInt64} :
    slot ⟨fork, .json value⟩ = .ok n ↔
      ∃ text, value.member? "slot" = some (.string text) ∧ Numeral.Denotes text n.toNat := by
  simp only [slot, ← Numeral.read_eq_ok_iff]
  cases hmember : value.member? "slot" with
  | none => simp
  | some found =>
    cases found with
    | string text => cases hread : Numeral.read text <;> simp [hread]
    | null | bool | integer | decimal | array | object => simp

namespace Numeral

/-- **Decimal numbers.** A number of 64 bits is read back from the text that is written for it,
plain or quoted in JSON. A text is read if and only if it denotes such a number, and the number is
what is read; all other texts are refused, among them those with a minus sign or a blank, those
without digits, and those of a number that needs more than 64 bits. The quoted numbers of JSON, the
items of lists of these and the slots of states in JSON are read from the same texts. A list keeps
the number and the order of its items, and is refused if one of them is. -/
theorem reads_decimals :
    (∀ n, read (write n) = .ok n ∧ Json.Codec.quoted.read (Json.Codec.quoted.write n) = .ok n ∧
      Json.Codec.quoted.decode (Json.Codec.quoted.encode n) = .ok n) ∧
    (∀ text n, read text = .ok n ↔ Denotes text n.toNat) ∧
    (∀ text, (∃ e, read text = .error e) ↔ ∀ n < UInt64.size, ¬ Denotes text n) ∧
    (∀ text, ((∃ c ∈ text.toList, c = '-' ∨ Text.isBlank c = true) ∨ body text = [] ∨
      ∃ n ≥ UInt64.size, Denotes text n) → ∃ e, read text = .error e) ∧
    (∀ node n, Json.Codec.quoted.read node = .ok n ↔ node.Quotes n.toNat) ∧
    (∀ node values, Json.Codec.quotedList.read node = .ok values ↔
      ∃ items, node = .array items true ∧
        List.Forall₂ (fun item n => item.Quotes n.toNat) items values) ∧
    (∀ items closed, (∃ e, Json.Codec.quotedList.read (.array items closed) = .error e) ↔
      closed = false ∨ ∃ item ∈ items, ∀ n < UInt64.size, ¬ item.Quotes n) ∧
    ∀ fork value n, BeaconState.slot ⟨fork, .json value⟩ = .ok n ↔
      ∃ text, value.member? "slot" = some (.string text) ∧ Denotes text n.toNat := by
  refine ⟨fun n => ⟨read_write n, ?_, ?_⟩, fun _ _ => read_eq_ok_iff,
    fun _ => exists_read_error_iff, fun text refused => ?_,
    fun _ _ => Json.Codec.quoted_read_eq_ok_iff, fun _ _ => Json.Codec.quotedList_read_eq_ok_iff,
    fun _ _ => Json.Codec.quotedList_read_eq_error_iff,
    fun _ _ _ => BeaconState.slot_json_eq_ok_iff⟩
  · exact Json.Codec.isLossless_quoted.faithful n _ (.string _)
  · exact Json.Codec.isLossless_quoted.decode_encode n
  · rcases refused with ⟨c, hmem, hc⟩ | hnil | ⟨n, large, h⟩
    · exact exists_read_error_iff.2 fun n _ h => h.not_mem hc hmem
    · exact ⟨_, read_of_body_eq_nil hnil⟩
    · exact ⟨_, h.read_eq_tooLarge large⟩

/-- The greatest number is read after a plus sign and zeros, the next one is refused. -/
theorem reads_decimals_limits :
    read "+00018446744073709551615" = .ok 18446744073709551615 ∧
      (∃ n ≥ UInt64.size, Denotes "18446744073709551616" n) ∧
      (∃ e, read "18446744073709551616" = .error e) ∧
      (∃ c ∈ "1 -2".toList, c = '-' ∨ Text.isBlank c = true) ∧ ∃ e, read "1 -2" = .error e := by
  obtain ⟨-, denoted, -, refused, -⟩ := reads_decimals
  have large : ∃ n ≥ UInt64.size, Denotes "18446744073709551616" n :=
    ⟨18446744073709551616, by decide, by decide, List.all_eq_true.1 rfl, by decide⟩
  have blank : ∃ c ∈ "1 -2".toList, c = '-' ∨ Text.isBlank c = true := ⟨'-', by decide, by decide⟩
  exact ⟨(denoted _ _).2 ⟨by decide, List.all_eq_true.1 rfl, by decide⟩, large,
    refused _ (.inr (.inr large)), blank, refused _ (.inl blank)⟩

end Numeral

end Beacon
