import Beacon.Bytes.Hex
import Beacon.Bytes.Utf8
import Beacon.Text.Numeral

/-!
# Written forms

Text, numbers and byte strings read back from what is written for them: text from its UTF-8 bytes,
numbers of 64 bits from decimal digits, byte strings from hexadecimal digits.
-/

namespace Beacon

/-- Text is read back from its bytes. -/
theorem Utf8.decode?_encode (text : String) : decode? (encode text) = some text := by
  rw [decode?, encode, String.toUTF8_eq_toByteArray, String.fromUTF8?, dif_pos text.isValidUTF8]
  rfl

/-! ### Numerals -/

namespace Numeral

/-- A character is read as the digit that it is. -/
theorem digit?_eq (c : Char) :
    digit? c = if c.isDigit = true then some (c.toNat - '0'.toNat) else none := by
  have hdigit : c.isDigit = true ↔ '0' ≤ c ∧ c ≤ '9' := by
    simp only [Char.isDigit, Bool.and_eq_true, decide_eq_true_eq]
    rfl
  simp only [hdigit]
  rfl

theorem digit?_eq_some_iff {c : Char} {d : Nat} :
    digit? c = some d ↔ c.isDigit = true ∧ c.toNat - '0'.toNat = d := by
  simp [digit?_eq]

theorem digit?_eq_none_iff {c : Char} : digit? c = none ↔ c.isDigit = false := by
  simp [digit?_eq]

/-- A digit is put after a number, as long as 64 bits are enough. -/
theorem toNat_append_digit {value : UInt64} {d : Nat} (h : value.toNat * 10 + d < UInt64.size) :
    (value * 10 + d.toUInt64).toNat = 10 * value.toNat + d := by
  have hsize : UInt64.size = 2 ^ 64 := rfl
  have hten : (10 : UInt64).toNat = 10 := rfl
  rw [hsize] at h
  rw [UInt64.toNat_add, UInt64.toNat_mul, Nat.toUInt64, UInt64.toNat_ofNat', hten]
  omega

/-- Digits after a number stand for no less than it. -/
theorem le_ofDigitChars (digits : List Char) (value : Nat) :
    value ≤ Nat.ofDigitChars 10 digits value := by
  rw [Nat.ofDigitChars_eq_ofDigitChars_zero]
  have := Nat.le_mul_of_pos_left value (Nat.pow_pos (by decide : 0 < 10) : 0 < 10 ^ digits.length)
  omega

/-- Characters after a number are read if and only if they are digits and 64 bits are enough for
what they stand for, and this is what is read. -/
theorem readDigits_eq_ok_iff {text : List Char} {value n : UInt64} :
    readDigits value text = .ok n ↔
      (∀ c ∈ text, c.isDigit = true) ∧ Nat.ofDigitChars 10 text value.toNat = n.toNat := by
  induction text generalizing value with
  | nil => simp [readDigits, UInt64.toNat_inj]
  | cons c rest ih =>
    rw [readDigits, List.forall_mem_cons, Nat.ofDigitChars_cons]
    cases hc : digit? c with
    | none => simp [digit?_eq_none_iff.1 hc]
    | some d =>
      obtain ⟨hdigit, rfl⟩ := digit?_eq_some_iff.1 hc
      simp only [hdigit, true_and]
      split
      · next hsmall => rw [ih, toNat_append_digit hsmall]
      · next hlarge =>
        -- the digits that follow make the number no smaller
        have hle := le_ofDigitChars rest (10 * value.toNat + (c.toNat - '0'.toNat))
        have hsize : UInt64.size = 2 ^ 64 := rfl
        refine ⟨nofun, ?_⟩
        rintro ⟨-, hvalue⟩
        have hlt := n.toNat_lt
        rw [hvalue] at hle
        omega

/-- A number is read back from its digits. -/
theorem read_write (n : UInt64) : read (write n) = .ok n := by
  have hdigits : ∀ c ∈ Nat.toDigits 10 n.toNat, c.isDigit = true := fun c hc =>
    Nat.isDigit_of_mem_toDigits (by decide) (by decide) hc
  have hvalue : Nat.ofDigitChars 10 (Nat.toDigits 10 n.toNat) (0 : UInt64).toNat = n.toNat :=
    Nat.ofDigitChars_ten_toDigits
  have hread := readDigits_eq_ok_iff.2 ⟨hdigits, hvalue⟩
  rw [read, write, String.toList_ofList]
  -- the digits are not none, and they do not start with a sign
  match hmatch : Nat.toDigits 10 n.toNat with
  | [] => exact absurd hmatch Nat.toDigits_ne_nil
  | c :: rest =>
    rw [hmatch] at hread hdigits
    have hc : c ≠ '+' := by
      rintro rfl
      exact absurd (hdigits '+' List.mem_cons_self) (by decide)
    rw [readChars]
    · exact hread
    all_goals simp [hc]

end Numeral

/-! ### Hexadecimal digits -/

namespace Hex

theorem value?_digit {n : Nat} (h : n < 16) : value? (digit n) = some n := by
  revert n
  decide

theorem octet?_octet (b : UInt8) :
    octet? (digit (b.toNat / 16)) (digit (b.toNat % 16)) = some b := by
  have hb := b.toNat_lt
  rw [octet?, value?_digit (by omega), value?_digit (Nat.mod_lt _ (by decide))]
  simp only
  rw [Nat.div_add_mod, Nat.toUInt8, UInt8.ofNat_toNat]

theorem readPairs_digits (bytes done : Bytes) :
    readPairs done (digits bytes) = some (done.reverse ++ bytes) := by
  induction bytes generalizing done with
  | nil => simp [digits, readPairs]
  | cons b rest ih =>
    have hcons : digits (b :: rest) =
        digit (b.toNat / 16) :: digit (b.toNat % 16) :: digits rest := rfl
    rw [hcons, readPairs, octet?_octet]
    simp only
    rw [ih, List.reverse_cons, List.append_assoc, List.singleton_append]

/-- A byte string is read back from its digits. -/
theorem decode?_encode (bytes : Bytes) : decode? (encode bytes) = some bytes := by
  rw [decode?, encode, String.toList_ofList, strip, ofDigits?, readPairs_digits]
  rfl

theorem decodeVector?_encode {n : Nat} (v : ByteVector n) :
    decodeVector? n (encode v.toList) = some v := by
  rw [decodeVector?, decode?_encode, Option.bind_some, ByteVector.ofList?_toList]

end Hex

end Beacon
