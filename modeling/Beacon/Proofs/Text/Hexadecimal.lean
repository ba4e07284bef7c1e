import Beacon.Proofs.Json.Reading
import Beacon.Proofs.Text.Written
import Mathlib.Algebra.Group.Nat.Even
import Mathlib.Data.List.Forall2

/-!
# Hexadecimal texts

Which texts are read as byte strings, and as what. `Hex.body` is what a text has to say, without
one `0x` at its start, and `Hex.IsText` says that it is an even number of digits of either case.
`Hex.decode?_eq_some_iff` says that reading gives the byte string whose written form has the same
digits in small letters. The readers of fixed length and of lists in JSON rest on this one.
-/

namespace Beacon

namespace Hex

/-! ### Digits -/

/-- The hexadecimal digits, the letters in either case. -/
def alphabet : List Char := "0123456789abcdefABCDEF".toList

theorem value?_of_mem {c : Char} (h : c ∈ alphabet) :
    ∃ n < 16, value? c = some n ∧ digit n = c.toLower := by
  have all : alphabet.all (fun c =>
    (value? c).any fun n => decide (n < 16 ∧ digit n = c.toLower)) = true := by decide
  obtain ⟨n, hn, hdigit⟩ := (Option.any_eq_true _ _).1 (List.all_eq_true.1 all c h)
  obtain ⟨hlt, hlower⟩ := of_decide_eq_true hdigit
  exact ⟨n, hlt, hn, hlower⟩

theorem mem_alphabet {c : Char} {n : Nat} (h : value? c = some n) : c ∈ alphabet := by
  have ascii : c.toNat < 128 := by
    have below {high : Char} (hhigh : c ≤ high) : c.toNat ≤ high.toNat := hhigh
    unfold value? at h
    split_ifs at h with hdigit hsmall hcapital
    · exact (below hdigit.2).trans_lt (by decide)
    · exact (below hsmall.2).trans_lt (by decide)
    · exact (below hcapital.2).trans_lt (by decide)
  have each : ∀ m < 128, (value? (Char.ofNat m)).isSome → Char.ofNat m ∈ alphabet := by decide
  have hc := each c.toNat ascii
  rw [Char.ofNat_toNat, h] at hc
  exact hc rfl

theorem digit_inj {m n : Nat} (hm : m < 16) (hn : n < 16) (h : digit m = digit n) : m = n := by
  have hvalue := value?_digit hm
  rw [h, value?_digit hn] at hvalue
  exact (Option.some.inj hvalue).symm

/-- Two characters write an octet if and only if both are digits, and then they are its digits but
for their case. -/
theorem octet?_eq_some_iff {high low : Char} {b : UInt8} :
    octet? high low = some b ↔
      high ∈ alphabet ∧ low ∈ alphabet ∧ octet b = [high.toLower, low.toLower] := by
  constructor
  · intro h
    unfold octet? at h
    split at h
    · next m n hm hn =>
      cases h
      have hhigh := mem_alphabet hm
      have hlow := mem_alphabet hn
      obtain ⟨m', hm', hvalue, hdigit⟩ := value?_of_mem hhigh
      obtain ⟨n', hn', hvalue', hdigit'⟩ := value?_of_mem hlow
      obtain rfl := Option.some.inj (hm.symm.trans hvalue)
      obtain rfl := Option.some.inj (hn.symm.trans hvalue')
      have hb : (16 * m + n).toUInt8.toNat = 16 * m + n := by
        rw [Nat.toUInt8, UInt8.toNat_ofNat']
        omega
      refine ⟨hhigh, hlow, ?_⟩
      rw [octet, hb, ← hdigit, ← hdigit', show (16 * m + n) / 16 = m by omega,
        show (16 * m + n) % 16 = n by omega]
    · cases h
  · rintro ⟨hhigh, hlow, h⟩
    obtain ⟨m, hm, hvalue, hdigit⟩ := value?_of_mem hhigh
    obtain ⟨n, hn, hvalue', hdigit'⟩ := value?_of_mem hlow
    have hb := b.toNat_lt
    rw [octet, List.cons.injEq, List.cons.injEq, ← hdigit, ← hdigit'] at h
    have hm' := digit_inj (by omega) hm h.1
    have hn' := digit_inj (Nat.mod_lt _ (by decide)) hn h.2.1
    rw [octet?, hvalue, hvalue']
    simp only
    rw [← hm', ← hn', Nat.div_add_mod, Nat.toUInt8, UInt8.ofNat_toNat]

/-! ### Texts -/

/-- What a text has to say: the text without one `0x` at its start. -/
def body (text : String) : List Char :=
  if ['0', 'x'] <+: text.toList then text.toList.drop 2 else text.toList

/-- A hexadecimal text: an even number of digits after at most one `0x`. -/
def IsText (text : String) : Prop := Even (body text).length ∧ ∀ c ∈ body text, c ∈ alphabet

theorem strip_toList (text : String) : strip text.toList = body text := by
  unfold strip body
  split
  · next rest h =>
    rw [h, if_pos ⟨rest, rfl⟩]
    rfl
  · next hne =>
    rw [if_neg]
    rintro ⟨rest, hrest⟩
    exact hne rest hrest.symm

theorem digits_cons (b : UInt8) (rest : Bytes) :
    digits (b :: rest) = octet b ++ digits rest := List.flatMap_cons

theorem length_digits (bytes : Bytes) : (digits bytes).length = 2 * bytes.length := by
  induction bytes with
  | nil => rfl
  | cons b rest ih =>
    rw [digits_cons, List.length_append, ih, List.length_cons, Nat.mul_add_one, Nat.add_comm]
    rfl

/-- Digits that start with those of two characters start with the octet that these write. -/
theorem digits_eq_cons_cons {bytes : Bytes} {high low : Char} {text : List Char}
    (hhigh : high ∈ alphabet) (hlow : low ∈ alphabet)
    (h : digits bytes = high.toLower :: low.toLower :: text) :
    ∃ b rest, bytes = b :: rest ∧ octet? high low = some b ∧ digits rest = text := by
  cases bytes with
  | nil => cases h
  | cons b rest =>
    rw [digits_cons, octet, List.cons_append, List.cons_append, List.nil_append] at h
    injection h with hfirst h
    injection h with hsecond h
    exact ⟨b, rest, rfl, octet?_eq_some_iff.2 ⟨hhigh, hlow, by rw [octet, hfirst, hsecond]⟩, h⟩

/-- Pairs of characters are read if and only if they are digits, and what they write has the same
digits but for their case. -/
theorem readPairs_eq_some_iff {done out : Bytes} {text : List Char} :
    readPairs done text = some out ↔
      (∀ c ∈ text, c ∈ alphabet) ∧
        ∃ bytes, out = done.reverse ++ bytes ∧ digits bytes = text.map Char.toLower := by
  fun_induction readPairs done text with
  | case1 done =>
    constructor
    · rintro ⟨⟩
      exact ⟨nofun, [], (List.append_nil _).symm, rfl⟩
    · rintro ⟨-, bytes, rfl, hdigits⟩
      cases bytes with
      | nil => rw [List.append_nil]
      | cons b rest => cases hdigits
  | case2 done c =>
    refine ⟨nofun, ?_⟩
    rintro ⟨-, bytes, -, hdigits⟩
    have hlength := congrArg List.length hdigits
    rw [length_digits, List.length_map, List.length_singleton] at hlength
    omega
  | case3 done high low rest b hb ih =>
    obtain ⟨hhigh, hlow, hoctet⟩ := octet?_eq_some_iff.1 hb
    rw [ih, List.forall_mem_cons, List.forall_mem_cons, and_iff_right hhigh, and_iff_right hlow]
    refine and_congr_right fun _ => ?_
    constructor
    · rintro ⟨bytes, rfl, hdigits⟩
      refine ⟨b :: bytes, by simp, ?_⟩
      rw [digits_cons, hoctet, hdigits]
      rfl
    · rintro ⟨bytes, rfl, hdigits⟩
      obtain ⟨b', tail, rfl, hb', htail⟩ := digits_eq_cons_cons hhigh hlow hdigits
      obtain rfl := Option.some.inj (hb.symm.trans hb')
      exact ⟨tail, by simp, htail⟩
  | case4 done high low rest hnone =>
    refine ⟨nofun, ?_⟩
    rintro ⟨hall, bytes, -, hdigits⟩
    rw [List.forall_mem_cons, List.forall_mem_cons] at hall
    obtain ⟨b, -, -, hb, -⟩ := digits_eq_cons_cons hall.1 hall.2.1 hdigits
    rw [hnone] at hb
    cases hb

/-- A text is read as a byte string if and only if it has the digits of the byte string, but for
their case. -/
theorem decode?_eq_some_iff {text : String} {bytes : Bytes} :
    decode? text = some bytes ↔
      (∀ c ∈ body text, c ∈ alphabet) ∧ digits bytes = (body text).map Char.toLower := by
  rw [decode?, ofDigits?, strip_toList, readPairs_eq_some_iff]
  simp

theorem exists_digits_eq : {text : List Char} → Even text.length → (∀ c ∈ text, c ∈ alphabet) →
    ∃ bytes, digits bytes = text.map Char.toLower
  | [], _, _ => ⟨[], rfl⟩
  | [_], heven, _ => absurd heven Nat.not_even_one
  | high :: low :: rest, heven, hall => by
    rw [List.forall_mem_cons, List.forall_mem_cons] at hall
    have hrest : Even rest.length := by
      rw [List.length_cons, List.length_cons] at heven
      grind
    obtain ⟨bytes, hbytes⟩ := exists_digits_eq hrest hall.2.2
    obtain ⟨m, -, hm, -⟩ := value?_of_mem hall.1
    obtain ⟨n, -, hn, -⟩ := value?_of_mem hall.2.1
    have hb : octet? high low = some (16 * m + n).toUInt8 := by rw [octet?, hm, hn]
    refine ⟨(16 * m + n).toUInt8 :: bytes, ?_⟩
    rw [digits_cons, (octet?_eq_some_iff.1 hb).2.2, hbytes]
    rfl

/-- The hexadecimal texts are the texts that are read. -/
theorem exists_decode?_iff {text : String} :
    (∃ bytes, decode? text = some bytes) ↔ IsText text := by
  simp only [decode?_eq_some_iff, exists_and_left]
  constructor
  · rintro ⟨hall, bytes, hdigits⟩
    refine ⟨⟨bytes.length, ?_⟩, hall⟩
    rw [← Nat.two_mul, ← length_digits, hdigits, List.length_map]
  · rintro ⟨heven, hall⟩
    exact ⟨hall, exists_digits_eq heven hall⟩

/-! ### Fixed lengths -/

theorem decodeVector?_eq_some_iff {n : Nat} {text : String} {v : ByteVector n} :
    decodeVector? n text = some v ↔ decode? text = some v.toList := by
  rw [decodeVector?, Option.bind_eq_some_iff]
  simp only [ByteVector.ofList?_eq_some, exists_eq_right]

theorem exists_decodeVector?_iff {n : Nat} {text : String} :
    (∃ v, decodeVector? n text = some v) ↔
      ∃ bytes, decode? text = some bytes ∧ bytes.length = n := by
  simp only [decodeVector?_eq_some_iff]
  constructor
  · rintro ⟨v, h⟩
    exact ⟨v.toList, h, v.length_toList⟩
  · rintro ⟨bytes, h, hlength⟩
    exact ⟨⟨bytes, hlength⟩, h⟩

end Hex

namespace Json.Codec

theorem readHex_eq_ok_iff {n : Nat} {text : String} {v : ByteVector n} :
    readHex n text = .ok v ↔ Hex.decodeVector? n text = some v := by
  unfold readHex
  cases Hex.decodeVector? n text <;> simp

/-- A list in JSON is read if and only if its items are read one by one, in their order. -/
theorem hexVector_read_eq_ok_iff {n count : Nat} {node : Node}
    {values : Vector (ByteVector n) count} :
    (hexVector n count).read node = .ok values ↔
      ∃ items, (list text).read node = .ok items ∧
        items.map (Hex.decodeVector? n) = values.toList.map some := by
  have hitems (items : List String) :
      items.map (Hex.decodeVector? n) = values.toList.map some ↔
        items.map (readHex n) = values.toList.map .ok := by
    have each : List.Forall₂ (fun item v => Hex.decodeVector? n item = some v) items
          values.toList ↔
        List.Forall₂ (fun item v => readHex n item = .ok v) items values.toList := by
      simp only [readHex_eq_ok_iff]
    rw [← List.forall₂_eq_eq_eq, ← List.forall₂_eq_eq_eq]
    simpa only [List.forall₂_map_left_iff, List.forall₂_map_right_iff] using each
  simp only [hitems]
  rw [← texts_read_eq_ok_iff fun v => Hex.encode v.toList]
  simp only [hexVector]
  cases (texts (fun v => Hex.encode v.toList) (readHex n)).read node with
  | error e => simp
  | ok found =>
    simp only [Except.ok.injEq]
    split
    · next h =>
      rw [Except.ok.injEq, ← Vector.toList_inj]
      simp
    · next h =>
      refine ⟨nofun, ?_⟩
      rintro rfl
      exact absurd values.length_toList h

/-- Lists are read if and only if they have the right number of items, each of them readable. -/
theorem exists_hexVector_read_iff {n count : Nat} {node : Node} :
    (∃ values, (hexVector n count).read node = .ok values) ↔
      ∃ items, (list text).read node = .ok items ∧ items.length = count ∧
        ∀ item ∈ items, ∃ v, Hex.decodeVector? n item = some v := by
  simp only [hexVector_read_eq_ok_iff]
  constructor
  · rintro ⟨values, items, hread, hitems⟩
    refine ⟨items, hread, ?_, fun item hitem => ?_⟩
    · have hlength := congrArg List.length hitems
      rwa [List.length_map, List.length_map, Vector.length_toList] at hlength
    · have hmem : Hex.decodeVector? n item ∈ values.toList.map some :=
        hitems ▸ List.mem_map_of_mem hitem
      obtain ⟨v, -, hv⟩ := List.mem_map.1 hmem
      exact ⟨v, hv.symm⟩
  · rintro ⟨items, hread, rfl, hall⟩
    have : Nonempty (ByteVector n) := ⟨.zero n⟩
    choose! v hv using hall
    have hmap : items.map (Hex.decodeVector? n) = (items.map v).map some := by
      rw [List.map_map]
      exact List.map_congr_left hv
    exact ⟨⟨(items.map v).toArray, by simp⟩, items, hread, hmap⟩

theorem readHex_eq_error_iff {n : Nat} {text : String} {e : Error} :
    readHex n text = .error e ↔
      e = .rejected DataError.badHex.message ∧ Hex.decodeVector? n text = none := by
  unfold readHex
  cases Hex.decodeVector? n text with
  | none => simp [eq_comm]
  | some v => simp

end Json.Codec

/-- **Hexadecimal texts.** Byte strings are read back from their written forms. The texts that are
read have, after at most one `0x`, an even number of digits of either case, and the byte string that
is read is written with the same digits in small letters; every other text is refused. A byte string
of a fixed length is what is read, if it has this length, and every other text is refused as no such
byte string. A list in JSON is read if and only if it has the right number of items and each of them
is read, and the values keep their order. -/
theorem Hex.reads_digits :
    (∀ bytes, decode? (encode bytes) = some bytes) ∧
    (∀ text bytes, decode? text = some bytes ↔
      IsText text ∧ encode bytes = "0x" ++ String.ofList ((body text).map Char.toLower)) ∧
    (∀ text, decode? text = none ↔ ¬ IsText text) ∧
    (∀ n text v, decodeVector? n text = some v ↔ decode? text = some v.toList) ∧
    (∀ n text e, Json.Codec.readHex n text = .error e ↔
      e = .rejected DataError.badHex.message ∧
        ¬ ∃ bytes, decode? text = some bytes ∧ bytes.length = n) ∧
    (∀ n count node, (∃ values, (Json.Codec.hexVector n count).read node = .ok values) ↔
      ∃ items, (Json.Codec.list Json.Codec.text).read node = .ok items ∧ items.length = count ∧
        ∀ item ∈ items, ∃ v, decodeVector? n item = some v) ∧
    ∀ n count node values, (Json.Codec.hexVector n count).read node = .ok values ↔
      ∃ items, (Json.Codec.list Json.Codec.text).read node = .ok items ∧
        items.map (decodeVector? n) = values.toList.map some := by
  refine ⟨decode?_encode, fun text bytes => ?_, fun text => ?_,
    fun _ _ _ => decodeVector?_eq_some_iff, fun n text e => ?_,
    fun _ _ _ => Json.Codec.exists_hexVector_read_iff,
    fun _ _ _ _ => Json.Codec.hexVector_read_eq_ok_iff⟩
  · have hwritten : encode bytes = "0x" ++ String.ofList ((body text).map Char.toLower) ↔
        digits bytes = (body text).map Char.toLower := by
      rw [encode, ← String.toList_inj]
      simp
    rw [hwritten, ← exists_decode?_iff]
    constructor
    · intro h
      exact ⟨⟨bytes, h⟩, (decode?_eq_some_iff.1 h).2⟩
    · rintro ⟨⟨found, hfound⟩, hdigits⟩
      exact decode?_eq_some_iff.2 ⟨(decode?_eq_some_iff.1 hfound).1, hdigits⟩
  · rw [← exists_decode?_iff, ← Option.isSome_iff_exists, Option.not_isSome_iff_eq_none]
  · rw [Json.Codec.readHex_eq_error_iff, ← exists_decodeVector?_iff, ← Option.isSome_iff_exists,
      Option.not_isSome_iff_eq_none]

/-- One `0x` is left out and no other, and its letter is small. -/
example : Hex.decode? "0xAb0c" = some [0xAB, 0x0C] ∧ Hex.decode? "0x0xAb" = none ∧
    Hex.decode? "0XAb" = none := by
  decide

end Beacon
