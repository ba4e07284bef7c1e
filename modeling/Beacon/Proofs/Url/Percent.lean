import Beacon.Proofs.Text.Written
import Beacon.Url.Basic

/-!
# Percent encoding of what is encoded

What is percent-encoded once holds only characters that its part may hold, so that encoding it again
leaves it as it is, and there are no dots in it that were not in the text (`plainDots_encode`).
Decoding leaves a text of ASCII without percent signs as it is.
-/

namespace Beacon

/-- An octet of ASCII in the UTF-8 form of a character is the character. -/
theorem Utf8.toNat_eq_of_mem {c : Char} {b : UInt8} (hb : b.toNat < 0x80)
    (h : b ∈ String.utf8EncodeChar c) : c.toNat = b.toNat := by
  have hc : c.val.toNat = c.toNat := rfl
  rw [String.utf8EncodeChar, hc] at h
  -- an octet of a longer form is 128 or more
  split at h
  · rw [List.mem_singleton.1 h, UInt8.toNat_ofNat']
    omega
  · exfalso
    split at h
    · simp only [List.mem_cons, List.not_mem_nil, or_false] at h
      obtain rfl | rfl := h <;> rw [UInt8.toNat_ofNat'] at hb <;> omega
    · split at h
      · simp only [List.mem_cons, List.not_mem_nil, or_false] at h
        obtain rfl | rfl | rfl := h <;> rw [UInt8.toNat_ofNat'] at hb <;> omega
      · simp only [List.mem_cons, List.not_mem_nil, or_false] at h
        obtain rfl | rfl | rfl | rfl := h <;> rw [UInt8.toNat_ofNat'] at hb <;> omega

theorem Utf8.encode_ofList (text : List Char) :
    encode (String.ofList text) = text.flatMap String.utf8EncodeChar := by
  have hbytes : (String.ofList text).toByteArray =
    (text.flatMap String.utf8EncodeChar).toByteArray := rfl
  rw [encode, String.toUTF8_eq_toByteArray, hbytes, List.data_toByteArray]

namespace Url

variable {set text : List Char} {c : Char}

/-! ### Encoding -/

/-- A character that a part may hold as it is, if it may not hold the characters of a set. -/
def IsKept (set : List Char) (c : Char) : Prop := 0x20 ≤ c.toNat ∧ c.toNat < 0x7F ∧ c ∉ set

instance : Decidable (IsKept set c) := inferInstanceAs (Decidable (_ ∧ _))

/-- The characters that octets are written with. -/
def escapes : List Char := "%0123456789ABCDEF".toList

theorem isKept_iff : IsKept set c ↔ ¬(c.toNat < 0x20 ∨ 0x7F ≤ c.toNat ∨ c ∈ set) := by
  simp only [IsKept, not_or, Nat.not_lt, Nat.not_le]

theorem percentChar_of_isKept (h : IsKept set c) : percentChar set c = [c] :=
  if_neg (isKept_iff.1 h)

theorem percentChar_of_not_isKept (h : ¬ IsKept set c) :
    percentChar set c = (String.utf8EncodeChar c).flatMap percentOctet :=
  if_pos (Decidable.not_not.1 (mt isKept_iff.2 h))

theorem percentChar_ne_nil (c : Char) : percentChar set c ≠ [] := by
  by_cases hc : IsKept set c
  · rw [percentChar_of_isKept hc]
    exact List.cons_ne_nil c []
  · rw [percentChar_of_not_isKept hc]
    cases hoctets : String.utf8EncodeChar c with
    | nil => exact absurd hoctets String.utf8EncodeChar_ne_nil
    | cons b bytes => exact List.cons_ne_nil _ _

/-- Encoding leaves a text as it is if its part may hold it. -/
theorem percentEncode_of_isKept (h : ∀ c ∈ text, IsKept set c) : percentEncode set text = text := by
  induction text with
  | nil => rfl
  | cons c rest ih =>
    rw [percentEncode, List.flatMap_cons, percentChar_of_isKept (h c List.mem_cons_self)]
    exact congrArg (c :: ·) (ih fun d hd => h d (List.mem_cons_of_mem c hd))

theorem lt_of_isKept (hset : ' ' ∈ set) (h : IsKept set c) : 0x20 < c.toNat := by
  obtain ⟨hlow, -, hplain⟩ := h
  refine Nat.lt_of_le_of_ne hlow fun heq => hplain ?_
  have hspace : c = ' ' := Char.toNat_inj.1 (show c.toNat = ' '.toNat from heq.symm)
  exact hspace ▸ hset

theorem upperDigit_mem_escapes : ∀ n < 16, upperDigit n ∈ escapes := by decide

theorem mem_percentOctet {b : UInt8} (h : c ∈ percentOctet b) : c ∈ escapes := by
  have hb := b.toNat_lt
  simp only [percentOctet, List.mem_cons, List.not_mem_nil, or_false] at h
  obtain rfl | rfl | rfl := h
  · decide
  · exact upperDigit_mem_escapes _ (by omega)
  · exact upperDigit_mem_escapes _ (by omega)

theorem mem_percentEncode (h : c ∈ percentEncode set text) :
    (c ∈ text ∧ IsKept set c) ∨ c ∈ escapes := by
  obtain ⟨d, hd, hc⟩ := List.mem_flatMap.1 h
  by_cases hkept : IsKept set d
  · rw [percentChar_of_isKept hkept, List.mem_singleton] at hc
    exact .inl (hc ▸ ⟨hd, hkept⟩)
  · rw [percentChar_of_not_isKept hkept] at hc
    obtain ⟨b, -, hb⟩ := List.mem_flatMap.1 hc
    exact .inr (mem_percentOctet hb)

/-- What is encoded holds only what its part may hold. -/
theorem isKept_of_mem_percentEncode (plain : ∀ c ∈ escapes, IsKept set c)
    (h : c ∈ percentEncode set text) : IsKept set c := by
  obtain ⟨-, hkept⟩ | hescape := mem_percentEncode h
  · exact hkept
  · exact plain c hescape

/-- A part may hold what octets are written with. -/
theorem isKept_of_mem_escapes :
    ∀ set ∈ [userSet, pathSet, querySet, fragmentSet], ∀ c ∈ escapes, IsKept set c := by
  have all : [userSet, pathSet, querySet, fragmentSet].all
    (fun set => escapes.all fun c => decide (IsKept set c)) = true := by decide
  simpa only [List.all_eq_true, decide_eq_true_eq] using all

/-! ### Dots -/

theorem percentEncode_cons :
    percentEncode set (c :: text) = percentChar set c ++ percentEncode set text :=
  List.flatMap_cons

/-- A text whose encoded form starts with a character other than the percent sign starts with it. -/
theorem eq_cons_of_percentEncode {rest : List Char} (hc : c ≠ '%')
    (h : percentEncode set text = c :: rest) :
    ∃ tail, text = c :: tail ∧ percentEncode set tail = rest := by
  cases text with
  | nil => cases h
  | cons d tail =>
    rw [percentEncode_cons] at h
    by_cases hd : IsKept set d
    · rw [percentChar_of_isKept hd] at h
      obtain ⟨rfl, rfl⟩ := List.cons.inj h
      exact ⟨tail, rfl, rfl⟩
    · exfalso
      rw [percentChar_of_not_isKept hd] at h
      cases hoctets : String.utf8EncodeChar d with
      | nil => exact String.utf8EncodeChar_ne_nil hoctets
      | cons b bytes =>
        rw [hoctets] at h
        exact hc (List.cons.inj h).1.symm

theorem plainDots_of_ne {rest : List Char} (hc : c ≠ '%') :
    plainDots (c :: rest) = c :: plainDots rest :=
  plainDots.eq_3 c rest (fun _ h => absurd h hc) fun _ h => absurd h hc

theorem plainDots_of_not_mem (h : '%' ∉ text) : plainDots text = text := by
  induction text with
  | nil => rfl
  | cons c rest ih =>
    rw [List.mem_cons, not_or] at h
    rw [plainDots_of_ne (Ne.symm h.1), ih h.2]

theorem upperDigit_facts : ∀ n < 16, upperDigit n ≠ '%' ∧ upperDigit n ≠ 'e' ∧
    (upperDigit n = '2' → n = 2) ∧ (upperDigit n = 'E' → n = 14) := by
  decide

/-- An octet that does not stand for a dot is no encoded dot. -/
theorem plainDots_percentOctet {b : UInt8} (hb : b.toNat ≠ 0x2E) (rest : List Char) :
    plainDots (percentOctet b ++ rest) = percentOctet b ++ plainDots rest := by
  have hlt := b.toNat_lt
  obtain ⟨highMark, -, highTwo, -⟩ := upperDigit_facts (b.toNat / 16) (by omega)
  obtain ⟨lowMark, lowSmall, -, lowLarge⟩ := upperDigit_facts (b.toNat % 16) (by omega)
  have hmark : plainDots (percentOctet b ++ rest) =
      '%' :: plainDots (upperDigit (b.toNat / 16) :: upperDigit (b.toNat % 16) :: rest) := by
    apply plainDots.eq_3
    · rintro tail - h
      exact lowSmall (List.cons.inj (List.cons.inj h).2).1
    · rintro tail - h
      have htwo := highTwo (List.cons.inj h).1
      have hlarge := lowLarge (List.cons.inj (List.cons.inj h).2).1
      omega
  rw [hmark, plainDots_of_ne highMark, plainDots_of_ne lowMark]
  rfl

theorem plainDots_flatMap {bytes : Bytes} (h : ∀ b ∈ bytes, b.toNat ≠ 0x2E) (rest : List Char) :
    plainDots (bytes.flatMap percentOctet ++ rest) =
      bytes.flatMap percentOctet ++ plainDots rest := by
  induction bytes with
  | nil => rfl
  | cons b bytes ih =>
    rw [List.flatMap_cons, List.append_assoc, plainDots_percentOctet (h b List.mem_cons_self),
      ih fun d hd => h d (List.mem_cons_of_mem b hd), List.append_assoc]

/-- No dots come into a path by encoding it. -/
theorem plainDots_percentEncode (text : List Char) :
    plainDots (percentEncode pathSet text) = percentEncode pathSet (plainDots text) := by
  have keeps {c : Char} (rest : List Char) (hc : IsKept pathSet c) :
      percentEncode pathSet (c :: rest) = c :: percentEncode pathSet rest := by
    rw [percentEncode_cons, percentChar_of_isKept hc, List.singleton_append]
  fun_induction plainDots text with
  | case1 rest ih =>
    rw [keeps _ (by decide), keeps _ (by decide), keeps _ (by decide), keeps _ (by decide), ← ih]
    rfl
  | case2 rest ih =>
    rw [keeps _ (by decide), keeps _ (by decide), keeps _ (by decide), keeps _ (by decide), ← ih]
    rfl
  | case3 c rest small large ih =>
    by_cases hc : IsKept pathSet c
    · rw [keeps _ hc, keeps _ hc, ← ih]
      -- two digits after a percent sign were there before the encoding
      apply plainDots.eq_3
      · rintro tail rfl htail
        obtain ⟨a, rfl, ha⟩ := eq_cons_of_percentEncode (by decide) htail
        obtain ⟨b, rfl, -⟩ := eq_cons_of_percentEncode (by decide) ha
        exact small b rfl rfl
      · rintro tail rfl htail
        obtain ⟨a, rfl, ha⟩ := eq_cons_of_percentEncode (by decide) htail
        obtain ⟨b, rfl, -⟩ := eq_cons_of_percentEncode (by decide) ha
        exact large b rfl rfl
    · rw [percentEncode_cons, percentEncode_cons, percentChar_of_not_isKept hc, ← ih]
      refine plainDots_flatMap (fun b hb hdot => hc ?_) _
      have hchar := (Utf8.toNat_eq_of_mem (by omega) hb).trans hdot
      have heq : c = '.' := Char.toNat_inj.1 (show c.toNat = '.'.toNat from hchar)
      exact heq ▸ (by decide : IsKept pathSet '.')
  | case4 => rfl

/-! ### Decoding -/

/-- Decoding leaves octets as they are if none of them is a percent sign. -/
theorem percentDecode_of_not_mem {bytes : Bytes} (h : 0x25 ∉ bytes) :
    percentDecode bytes = bytes := by
  induction bytes with
  | nil => rfl
  | cons b rest ih =>
    rw [List.mem_cons, not_or] at h
    rw [percentDecode.eq_2 _ _ fun _ _ _ hb => absurd hb.symm h.1, ih h.2]

/-- A text without percent signs is read back from its octets. -/
theorem decode?_percentDecode (plain : '%' ∉ text) :
    Utf8.decode? (percentDecode (Utf8.encode (String.ofList text))) =
      some (String.ofList text) := by
  have hmark : 0x25 ∉ Utf8.encode (String.ofList text) := by
    rw [Utf8.encode_ofList, List.mem_flatMap]
    rintro ⟨c, hc, hb⟩
    have hchar := Utf8.toNat_eq_of_mem (by decide) hb
    have heq : c = '%' := Char.toNat_inj.1 (show c.toNat = '%'.toNat from hchar)
    exact plain (heq ▸ hc)
  rw [percentDecode_of_not_mem hmark, Utf8.decode?_encode]

end Url

end Beacon
