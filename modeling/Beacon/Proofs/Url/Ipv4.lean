import Beacon.Proofs.Text.Cut
import Beacon.Url.Ipv4
import Mathlib.Algebra.Group.Nat.Defs

/-!
# IPv4 addresses read back

An IPv4 address that is read has 32 bits (`Ipv4.lt_of_parse?`), and an address of 32 bits is read
back from its four octets (`Ipv4.parse?_write`). Numbers are read back from their digits in every
base up to 16.
-/

namespace Beacon.Url.Ipv4

variable {address : Nat}

/-! ### Digits -/

theorem digit?_digitChar : ∀ n < 16, digit? (Nat.digitChar n) = some n := by decide

/-- A number is read back from its digits. -/
theorem ofDigits?_toDigits {base : Nat} (hone : 1 < base) (hbase : base ≤ 16) (n : Nat) :
    ofDigits? base (Nat.toDigits base n) = some n := by
  induction n using Nat.strongRecOn with
  | ind n ih =>
    obtain hlt | hle := Nat.lt_or_ge n base
    · rw [Nat.toDigits_of_lt_base hlt]
      simp [ofDigits?, digit?_digitChar n (by omega), hlt]
    · -- all digits but the last one stand for the quotient
      have hlast : n % base < base := Nat.mod_lt n (by omega)
      have hfirst := ih (n / base) (Nat.div_lt_self (by omega) hone)
      rw [ofDigits?] at hfirst
      rw [Nat.toDigits_of_base_le hone hle, ofDigits?, List.foldlM_append, hfirst]
      simp [digit?_digitChar _ (Nat.lt_of_lt_of_le hlast hbase), hlast, Nat.div_add_mod']

/-- Digits of a base stand for a number below the power of the base with their number. -/
theorem lt_of_ofDigits? {base n : Nat} {digits : List Char} (h : ofDigits? base digits = some n) :
    n < base ^ digits.length := by
  suffices general : ∀ value count, value < base ^ count →
      digits.foldlM (fun n c => do
        let d ← digit? c
        if d < base then some (n * base + d) else none) value = some n →
      n < base ^ (count + digits.length) by
    have hlt := general 0 0 (by simp) h
    rwa [Nat.zero_add] at hlt
  clear h
  induction digits with
  | nil =>
    rintro value count hvalue h
    cases h
    exact hvalue
  | cons c rest ih =>
    intro value count hvalue h
    simp only [List.foldlM_cons, Option.bind_eq_bind, Option.bind_eq_some_iff] at h
    obtain ⟨next, ⟨d, -, hnext⟩, hrest⟩ := h
    split at hnext
    · next hd =>
      cases hnext
      have hmul := Nat.mul_le_mul_right base hvalue
      have hpow : base ^ (count + 1) = base ^ count * base := Nat.pow_succ ..
      rw [Nat.succ_mul] at hmul
      rw [List.length_cons, Nat.add_comm rest.length 1, ← Nat.add_assoc]
      exact ih _ _ (by omega) hrest
    · cases hnext

theorem exists_of_mem_toDigits {base : Nat} (hone : 1 < base) {n : Nat} {c : Char}
    (h : c ∈ Nat.toDigits base n) : ∃ d < base, c = Nat.digitChar d := by
  induction n using Nat.strongRecOn with
  | ind n ih =>
    obtain hlt | hle := Nat.lt_or_ge n base
    · rw [Nat.toDigits_of_lt_base hlt, List.mem_singleton] at h
      exact ⟨n, hlt, h⟩
    · rw [Nat.toDigits_of_base_le hone hle, List.mem_append, List.mem_singleton] at h
      obtain hfirst | hlast := h
      · exact ih (n / base) (Nat.div_lt_self (by omega) hone) hfirst
      · exact ⟨n % base, Nat.mod_lt n (by omega), hlast⟩

theorem isDigit_of_mem_toDigits {n : Nat} {c : Char} (h : c ∈ Nat.toDigits 10 n) :
    '0' ≤ c ∧ c ≤ '9' := by
  have hdigit := Nat.isDigit_of_mem_toDigits (by decide) (by decide) h
  simp only [Char.isDigit, Bool.and_eq_true, decide_eq_true_eq] at hdigit
  exact hdigit

/-- An octet in decimal is not taken for one in octal. -/
theorem number?_toDigits : ∀ n < 256, number? (Nat.toDigits 10 n) = some n := by
  decide +kernel

/-! ### Parts -/

theorem parts_eq (text : List Char) : parts text = text.splitOn '.' :=
  Text.foldl_partStep (· = '.') text ([], [])

/-- The octets of an address. -/
def octets (address : Nat) : List Nat :=
  [address / 16777216, address / 65536 % 256, address / 256 % 256, address % 256]

theorem toList_write (address : Nat) :
    (write address).toList = ['.'].intercalate ((octets address).map (Nat.toDigits 10)) := by
  have hdot : (toString ".").toList = ['.'] := rfl
  simp [write, octets, List.intercalate, hdot]

theorem mem_write {c : Char} (h : c ∈ (write address).toList) :
    c = '.' ∨ ∃ d < 10, c = Nat.digitChar d := by
  rw [toList_write] at h
  obtain hdot | ⟨part, hpart, hc⟩ := Text.mem_intercalate h
  · exact .inl (List.mem_singleton.1 hdot)
  · obtain ⟨n, -, rfl⟩ := List.mem_map.1 hpart
    exact .inr (exists_of_mem_toDigits (by decide) hc)

theorem parts_write (address : Nat) :
    parts (write address).toList = (octets address).map (Nat.toDigits 10) := by
  rw [toList_write, parts_eq]
  refine List.splitOn_intercalate '.' (fun part hpart hdot => ?_) (by simp [octets])
  obtain ⟨n, -, rfl⟩ := List.mem_map.1 hpart
  exact absurd (isDigit_of_mem_toDigits hdot) (by decide)

theorem labels_write (address : Nat) :
    labels (write address).toList = (octets address).map (Nat.toDigits 10) := by
  have hlast : ¬(((octets address).map (Nat.toDigits 10)).getLast? = some []) := by
    simp [octets, Nat.toDigits_ne_nil]
  rw [labels, parts_write, if_neg fun h => hlast h.2]

/-! ### Values -/

/-- An address that is written ends in a number. -/
theorem endsInNumber_write (address : Nat) : endsInNumber (write address).toList = true := by
  have hdigits : (Nat.toDigits 10 (address % 256)).all
      (fun c => decide ('0' ≤ c ∧ c ≤ '9')) = true := by
    simp only [List.all_eq_true, decide_eq_true_eq]
    exact fun c hc => isDigit_of_mem_toDigits hc
  have hlast : ((octets address).map (Nat.toDigits 10)).getLast? =
    some (Nat.toDigits 10 (address % 256)) := rfl
  rw [endsInNumber, labels_write, hlast]
  split
  · next h => cases h
  · next h => exact absurd (Option.some.inj h) Nat.toDigits_ne_nil
  · next h =>
    cases h
    rw [hdigits, Bool.true_or]

/-- An address of 32 bits is read back from what is written for it. -/
theorem parse?_write (h : address < 2 ^ 32) : parse? (write address).toList = some address := by
  have hoctets : ∀ n ∈ octets address, n < 256 := by
    simp only [octets, List.mem_cons, List.not_mem_nil, or_false]
    rintro n (rfl | rfl | rfl | rfl) <;> omega
  have hnumbers :
      ((octets address).map (Nat.toDigits 10)).mapM number? = some (octets address) := by
    rw [Text.mapM_eq_some_iff, List.map_map]
    exact List.map_congr_left fun n hn => number?_toDigits n (hoctets n hn)
  have hfirst : (octets address).dropLast =
    [address / 16777216, address / 65536 % 256, address / 256 % 256] := rfl
  have hlast : (octets address).getLast? = some (address % 256) := rfl
  have hbounds : (octets address).dropLast.all (· < 256) ∧
      address % 256 < Nat.pow 256 (4 - (octets address).dropLast.length) := by
    refine ⟨List.all_eq_true.2 fun n hn => ?_, Nat.mod_lt _ (by decide)⟩
    exact decide_eq_true (hoctets n (List.dropLast_subset _ hn))
  have hvalue : (((0 * 256 + address / 16777216) * 256 + address / 65536 % 256) * 256 +
      address / 256 % 256) * Nat.pow 256 1 + address % 256 = address := by
    have hpow : Nat.pow 256 1 = 256 := rfl
    rw [hpow]
    omega
  rw [parse?, labels_write, if_neg (by simp [octets]), hnumbers]
  show (do combine? (octets address).dropLast (← (octets address).getLast?)) = some address
  rw [hlast, Option.bind_eq_bind, Option.bind_some, combine?, if_pos hbounds, hfirst]
  exact congrArg some hvalue

/-- Octets after a value of `count` octets give a value of so many octets more. -/
theorem foldl_lt {first : List Nat} (h : ∀ n ∈ first, n < 256) (value count : Nat)
    (hvalue : value < 256 ^ count) :
    first.foldl (fun n octet => n * 256 + octet) value < 256 ^ (count + first.length) := by
  induction first generalizing value count with
  | nil => exact hvalue
  | cons n rest ih =>
    have hn := h n List.mem_cons_self
    have hnext : value * 256 + n < 256 ^ (count + 1) := by
      rw [Nat.pow_succ]
      omega
    rw [List.foldl_cons, List.length_cons, Nat.add_comm rest.length 1, ← Nat.add_assoc]
    exact ih (fun m hm => h m (List.mem_cons_of_mem n hm)) _ _ hnext

/-- An address that is read has 32 bits. -/
theorem lt_of_parse? {text : List Char} (h : parse? text = some address) : address < 2 ^ 32 := by
  rw [parse?] at h
  split at h
  · cases h
  · next hlength =>
    simp only [Option.bind_eq_bind, Option.bind_eq_some_iff] at h
    obtain ⟨numbers, hnumbers, last, hlast, hcombine⟩ := h
    have hcount := congrArg List.length (Text.mapM_eq_some_iff.1 hnumbers)
    rw [combine?] at hcombine
    split at hcombine
    · next hbounds =>
      obtain ⟨hfirst, hrest⟩ := hbounds
      have hvalue := foldl_lt (fun n hn => of_decide_eq_true (List.all_eq_true.1 hfirst n hn))
        0 0 (by decide)
      have hthree : numbers.dropLast.length ≤ 3 := by
        rw [List.length_map, List.length_map] at hcount
        rw [List.length_dropLast]
        omega
      have hsum : numbers.dropLast.length + (4 - numbers.dropLast.length) = 4 := by omega
      have hpow :
          256 ^ numbers.dropLast.length * 256 ^ (4 - numbers.dropLast.length) = 256 ^ 4 := by
        rw [← Nat.pow_add, hsum]
      have hbits : 256 ^ 4 = 2 ^ 32 := by decide
      have hmul := Nat.mul_le_mul_right (256 ^ (4 - numbers.dropLast.length)) hvalue
      rw [Nat.zero_add, hpow, hbits, Nat.succ_mul] at hmul
      rw [Nat.pow_eq] at hrest hcombine
      cases hcombine
      omega
    · cases hcombine

end Beacon.Url.Ipv4
