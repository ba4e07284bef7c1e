import Beacon.Json.Token

/-!
# The grammar of string bodies

`StringBody.Spells` says what may stand between the quotes for some bytes: every byte that may stand
there as it is, and every escape. A string that nobody reads may also contain surrogates that lack
their partner. `StringBody.Writes` is the whole grammar, and `StringBody.Spells` the part of it
without such surrogates (`Spells.writes`, `Writes.spells`). Scanning is exact for it:

* `StringBody.scan_of_writes`: a body is scanned up to its quote, escapes undone;
* `StringBody.scan_eq_some_iff`: a body is scanned if and only if it is written up to a quote;
* `StringBody.spells_flatMap_escape`: the compact text of a body is one of its spellings.
-/

namespace Beacon.Json.StringBody

/-! ### What stands for bytes -/

/-- Whether a byte may stand in a string as it is. -/
def isPlain (b : UInt8) : Bool := b ≠ 0x22 && b ≠ 0x5C && 0x20 ≤ b

/-- The bytes of a body and what may stand for them between the quotes. -/
inductive Spells : Bytes → Bytes → Prop where
  | nil : Spells [] []
  | plain {b : UInt8} {bytes text : Bytes} (h : isPlain b = true) (rest : Spells bytes text) :
    Spells (b :: bytes) (b :: text)
  | short {c b : UInt8} {bytes text : Bytes} (h : shortEscape? c = some b)
    (rest : Spells bytes text) : Spells (b :: bytes) (0x5C :: c :: text)
  /-- The escape of a character by its number. -/
  | unit {w x y z : UInt8} {n : Nat} {bytes text : Bytes} (h : unit? w x y z = some n)
    (single : n < 0xD800 ∨ 0xE000 ≤ n) (rest : Spells bytes text) :
    Spells (String.utf8EncodeChar (Char.ofNat n) ++ bytes)
      (0x5C :: 0x75 :: w :: x :: y :: z :: text)
  /-- The escape of a character by a pair of surrogates. -/
  | pair {w x y z w' x' y' z' : UInt8} {high low : Nat} {bytes text : Bytes}
    (h : unit? w x y z = some high) (h' : unit? w' x' y' z' = some low)
    (isHigh : 0xD800 ≤ high ∧ high < 0xDC00) (isLow : 0xDC00 ≤ low ∧ low < 0xE000)
    (rest : Spells bytes text) :
    Spells
      (String.utf8EncodeChar
        (Char.ofNat (0x10000 + (high - 0xD800) * 0x400 + (low - 0xDC00))) ++ bytes)
      (0x5C :: 0x75 :: w :: x :: y :: z :: 0x5C :: 0x75 :: w' :: x' :: y' :: z' :: text)

/-! ### What stands for a body -/

/-- A body with some bytes in front. -/
def precede (bytes : Bytes) (body : StringBody) : StringBody := ⟨bytes ++ body.bytes, body.paired⟩

@[simp] theorem bytes_precede (bytes : Bytes) (body : StringBody) :
    (body.precede bytes).bytes = bytes ++ body.bytes := rfl

@[simp] theorem paired_precede (bytes : Bytes) (body : StringBody) :
    (body.precede bytes).paired = body.paired := rfl

/-- A body with a surrogate that lacks its partner. -/
def unpaired (body : StringBody) : StringBody := ⟨body.bytes, false⟩

/-- A unit is the first one of a pair. -/
def IsHigh (n : Nat) : Prop := 0xD800 ≤ n ∧ n < 0xDC00

/-- A unit is the second one of a pair. -/
def IsLow (n : Nat) : Prop := 0xDC00 ≤ n ∧ n < 0xE000

/-- The number of the character that a pair of units stands for. -/
def pairCode (high low : Nat) : Nat := 0x10000 + (high - 0xD800) * 0x400 + (low - 0xDC00)

theorem pairCode_eq (high low : Nat) :
    pairCode high low = 0x10000 + (high - 0xD800) * 0x400 + (low - 0xDC00) := rfl

theorem IsLow.not_isHigh {n : Nat} (h : IsLow n) : ¬ IsHigh n := by
  unfold IsLow at h
  unfold IsHigh
  omega

/-- The units that stand for a character alone. -/
theorem single_iff {n : Nat} : n < 0xD800 ∨ 0xE000 ≤ n ↔ ¬ IsHigh n ∧ ¬ IsLow n := by
  unfold IsHigh IsLow
  omega

theorem pushUnit_high (d : Draft) {n : Nat} (h : IsHigh n) :
    d.pushUnit n = ⟨d.done, some n, d.paired && d.waiting.isNone⟩ := if_pos h

theorem pushUnit_lonely (done : Bytes) (paired : Bool) {n : Nat} (h : IsLow n) :
    (⟨done, none, paired⟩ : Draft).pushUnit n = ⟨done, none, false⟩ :=
  (if_neg h.not_isHigh).trans (if_pos h)

theorem pushUnit_low (done : Bytes) (high : Nat) (paired : Bool) {n : Nat} (h : IsLow n) :
    (⟨done, some high, paired⟩ : Draft).pushUnit n =
      (⟨done, none, paired⟩ : Draft).pushCodePoint (pairCode high n) :=
  (if_neg h.not_isHigh).trans (if_pos h)

theorem pushUnit_single (d : Draft) {n : Nat} (h : ¬ IsHigh n ∧ ¬ IsLow n) :
    d.pushUnit n = d.pushCodePoint n := (if_neg h.1).trans (if_neg h.2)

/-- Reading on after the character of a code point. -/
theorem scan_pushCodePoint (done : Bytes) (paired : Bool) (n : Nat) (text : Bytes) :
    scan ((⟨done, none, paired⟩ : Draft).pushCodePoint n) text =
      scan ⟨(String.utf8EncodeChar (Char.ofNat n)).reverse ++ done, none, paired⟩ text := by
  rw [Draft.pushCodePoint, Option.isNone_none, Bool.and_true]

/-- Bytes that are read before a body come before it. -/
theorem body_precede (done bytes : Bytes) (paired : Bool) (body : StringBody) :
    (⟨(bytes.reverse ++ done).reverse ++ body.bytes, paired && body.paired⟩ : StringBody) =
      ⟨done.reverse ++ (body.precede bytes).bytes, paired && (body.precede bytes).paired⟩ := by
  rw [List.reverse_append, List.reverse_reverse, List.append_assoc]
  rfl

/-- The escape of a unit that is the second one of a pair comes first. -/
def StartsLow (text : Bytes) : Prop :=
  ∃ w x y z low rest, text = 0x5C :: 0x75 :: w :: x :: y :: z :: rest ∧
    unit? w x y z = some low ∧ IsLow low

/-- A body and what may stand for it between the quotes. -/
inductive Writes : StringBody → Bytes → Prop where
  | nil : Writes ⟨[], true⟩ []
  | plain {b : UInt8} {body : StringBody} {text : Bytes} (h : isPlain b = true)
    (rest : Writes body text) : Writes (body.precede [b]) (b :: text)
  | short {c b : UInt8} {body : StringBody} {text : Bytes} (h : shortEscape? c = some b)
    (rest : Writes body text) : Writes (body.precede [b]) (0x5C :: c :: text)
  /-- The escape of a character by its number. -/
  | unit {w x y z : UInt8} {n : Nat} {body : StringBody} {text : Bytes}
    (h : unit? w x y z = some n) (single : ¬ IsHigh n ∧ ¬ IsLow n) (rest : Writes body text) :
    Writes (body.precede (String.utf8EncodeChar (Char.ofNat n)))
      (0x5C :: 0x75 :: w :: x :: y :: z :: text)
  /-- The escape of a character by a pair of surrogates. -/
  | pair {w x y z w' x' y' z' : UInt8} {high low : Nat} {body : StringBody} {text : Bytes}
    (h : unit? w x y z = some high) (h' : unit? w' x' y' z' = some low)
    (isHigh : IsHigh high) (isLow : IsLow low) (rest : Writes body text) :
    Writes (body.precede (String.utf8EncodeChar (Char.ofNat (pairCode high low))))
      (0x5C :: 0x75 :: w :: x :: y :: z :: 0x5C :: 0x75 :: w' :: x' :: y' :: z' :: text)
  /-- A surrogate without its partner before it. -/
  | low {w x y z : UInt8} {n : Nat} {body : StringBody} {text : Bytes}
    (h : unit? w x y z = some n) (isLow : IsLow n) (rest : Writes body text) :
    Writes body.unpaired (0x5C :: 0x75 :: w :: x :: y :: z :: text)
  /-- A surrogate without its partner behind it. -/
  | high {w x y z : UInt8} {n : Nat} {body : StringBody} {text : Bytes}
    (h : unit? w x y z = some n) (isHigh : IsHigh n) (alone : ¬ StartsLow text)
    (rest : Writes body text) : Writes body.unpaired (0x5C :: 0x75 :: w :: x :: y :: z :: text)

/-- What a body without lonely surrogates is spelled by is one of its texts. -/
theorem Spells.writes {bytes text : Bytes} (h : Spells bytes text) : Writes ⟨bytes, true⟩ text := by
  induction h with
  | nil => exact .nil
  | plain h _ ih => exact .plain h ih
  | short h _ ih => exact .short h ih
  | unit h single _ ih =>
    exact Writes.unit h (single_iff.1 single) ih
  | pair h h' isHigh isLow _ ih =>
    have hpair := Writes.pair h h' isHigh isLow ih
    rwa [pairCode_eq] at hpair

/-- The texts of a body without lonely surrogates are those that spell its bytes. -/
theorem Writes.spells {body : StringBody} {text : Bytes} (h : Writes body text)
    (paired : body.paired = true) : Spells body.bytes text := by
  induction h with
  | nil => exact .nil
  | plain h _ ih => exact .plain h (ih paired)
  | short h _ ih => exact .short h (ih paired)
  | unit h single _ ih =>
    rw [paired_precede] at paired
    rw [bytes_precede]
    exact .unit h (single_iff.2 single) (ih paired)
  | pair h h' isHigh isLow _ ih =>
    rw [paired_precede] at paired
    rw [bytes_precede, pairCode_eq]
    exact .pair h h' isHigh isLow (ih paired)
  | low => cases paired
  | high => cases paired

/-! ### Scanning -/

theorem scan_plain (draft : Draft) {b : UInt8} (h : isPlain b = true) (rest : Bytes) :
    scan draft (b :: rest) = scan (draft.push b) rest := by
  simp only [isPlain, Bool.and_eq_true, decide_eq_true_eq] at h
  rw [scan.eq_def]
  simp only
  rw [if_neg h.1.1, if_neg h.1.2, if_neg (UInt8.not_lt.2 h.2)]

theorem scan_short (draft : Draft) {c b : UInt8} (h : shortEscape? c = some b) (rest : Bytes) :
    scan draft (0x5C :: c :: rest) = scan (draft.push b) rest := by
  have hc : c ≠ 0x75 := by
    rintro rfl
    cases h
  rw [scan.eq_def]
  simp [hc, h]

theorem scan_unit (draft : Draft) {w x y z : UInt8} {n : Nat} (h : unit? w x y z = some n)
    (rest : Bytes) :
    scan draft (0x5C :: 0x75 :: w :: x :: y :: z :: rest) = scan (draft.pushUnit n) rest := by
  rw [scan.eq_def]
  simp [h]

/-- What a text may start with inside a string. -/
theorem head_cases (text : Bytes) :
    (∃ rest, text = 0x22 :: rest) ∨
    (∃ b rest, isPlain b = true ∧ text = b :: rest) ∨
    (∃ c b rest, shortEscape? c = some b ∧ text = 0x5C :: c :: rest) ∨
    (∃ w x y z n rest, unit? w x y z = some n ∧
      text = 0x5C :: 0x75 :: w :: x :: y :: z :: rest) ∨
    ∀ draft, scan draft text = none := by
  cases text with
  | nil => exact .inr (.inr (.inr (.inr fun draft => by rw [scan.eq_def])))
  | cons b rest =>
    by_cases hquote : b = 0x22
    · exact .inl ⟨rest, by rw [hquote]⟩
    by_cases hback : b = 0x5C
    · subst hback
      cases rest with
      | nil => exact .inr (.inr (.inr (.inr fun draft => by rw [scan.eq_def]; rfl)))
      | cons c rest =>
        by_cases hu : c = 0x75
        · subst hu
          refine .inr (.inr (.inr ?_))
          obtain _ | ⟨w, _ | ⟨x, _ | ⟨y, _ | ⟨z, rest⟩⟩⟩⟩ := rest
          -- an escape by number has four digits
          iterate 4 exact .inr fun draft => by rw [scan.eq_def]; simp
          cases hunit : unit? w x y z with
          | some n => exact .inl ⟨w, x, y, z, n, rest, hunit, rfl⟩
          | none => exact .inr fun draft => by rw [scan.eq_def]; simp [hunit]
        · cases hshort : shortEscape? c with
          | some b => exact .inr (.inr (.inl ⟨c, b, rest, hshort, rfl⟩))
          | none =>
            refine .inr (.inr (.inr (.inr fun draft => ?_)))
            rw [scan.eq_def]
            simp [hu, hshort]
    · by_cases hcontrol : b < 0x20
      · refine .inr (.inr (.inr (.inr fun draft => ?_)))
        rw [scan.eq_def]
        simp [hquote, hback, hcontrol]
      · exact .inr (.inl ⟨b, rest, by simp [isPlain, hquote, hback, UInt8.not_lt.1 hcontrol], rfl⟩)

theorem scan_quote (draft : Draft) (rest : Bytes) :
    scan draft (0x22 :: rest) = some (draft.body, rest) := by
  rw [scan.eq_def]
  rfl

/-- A surrogate that waits for its partner is lonely if this is not what comes next. -/
theorem scan_waiting {text : Bytes} (h : ¬ StartsLow text) (done : Bytes) (high : Nat)
    (paired : Bool) : scan ⟨done, some high, paired⟩ text = scan ⟨done, none, false⟩ text := by
  obtain ⟨rest, rfl⟩ | ⟨b, rest, hb, rfl⟩ | ⟨c, b, rest, hc, rfl⟩ |
    ⟨w, x, y, z, n, rest, hn, rfl⟩ | hnone := head_cases text
  · simp [scan_quote, Draft.body]
  · simp [scan_plain _ hb, Draft.push]
  · simp [scan_short _ hc, Draft.push]
  · have hlow : ¬ IsLow n := fun hlow => h ⟨_, _, _, _, n, rest, rfl, hn, hlow⟩
    rw [scan_unit _ hn, scan_unit _ hn]
    by_cases hhigh : IsHigh n
    · rw [pushUnit_high _ hhigh, pushUnit_high _ hhigh]
      simp
    · rw [pushUnit_single _ ⟨hhigh, hlow⟩, pushUnit_single _ ⟨hhigh, hlow⟩]
      simp [Draft.pushCodePoint]
  · rw [hnone, hnone]

/-- What follows the quote does not make a low surrogate come first. -/
theorem Writes.startsLow {body : StringBody} {text rest : Bytes} (h : Writes body text)
    (low : StartsLow (text ++ 0x22 :: rest)) : StartsLow text := by
  obtain ⟨w, x, y, z, n, more, heq, hunit, hlow⟩ := low
  cases h with
  | nil => cases heq
  | plain hb =>
    obtain ⟨rfl, -⟩ := List.cons.inj heq
    cases hb
  | short hc =>
    obtain ⟨-, heq⟩ := List.cons.inj heq
    obtain ⟨rfl, -⟩ := List.cons.inj heq
    cases hc
  | unit | pair | low | high =>
    simp only [List.cons_append, List.cons.injEq, true_and] at heq
    obtain ⟨rfl, rfl, rfl, rfl, -⟩ := heq
    exact ⟨_, _, _, _, n, _, rfl, hunit, hlow⟩

/-- A body is scanned up to its closing quote. -/
theorem scan_of_writes {body : StringBody} {text : Bytes} (h : Writes body text) (done : Bytes)
    (paired : Bool) (rest : Bytes) :
    scan ⟨done, none, paired⟩ (text ++ 0x22 :: rest) =
      some (⟨done.reverse ++ body.bytes, paired && body.paired⟩, rest) := by
  induction h generalizing done paired with
  | nil => rw [List.nil_append, scan_quote]; simp [Draft.body]
  | plain h _ ih =>
    rw [List.cons_append, scan_plain _ h, Draft.push, ih]
    simp
  | short h _ ih =>
    rw [List.cons_append, List.cons_append, scan_short _ h, Draft.push, ih]
    simp
  | unit h single _ ih =>
    simp only [List.cons_append]
    rw [scan_unit _ h, pushUnit_single _ single, scan_pushCodePoint, ih, body_precede]
  | pair h h' isHigh isLow _ ih =>
    simp only [List.cons_append]
    rw [scan_unit _ h, pushUnit_high _ isHigh, scan_unit _ h', pushUnit_low _ _ _ isLow,
      Option.isNone_none, Bool.and_true, scan_pushCodePoint, ih, body_precede]
  | low h isLow _ ih =>
    simp only [List.cons_append]
    rw [scan_unit _ h, pushUnit_lonely _ _ isLow, ih]
    simp [unpaired]
  | high h isHigh alone rest ih =>
    simp only [List.cons_append]
    rw [scan_unit _ h, pushUnit_high _ isHigh, scan_waiting fun low => alone (rest.startsLow low),
      ih]
    simp [unpaired]

/-- What is scanned up to a closing quote is a body. -/
theorem exists_writes {text rest : Bytes} {body : StringBody} {done : Bytes} {paired : Bool}
    (h : scan ⟨done, none, paired⟩ text = some (body, rest)) :
    ∃ found written, Writes found written ∧ text = written ++ 0x22 :: rest ∧
      body = ⟨done.reverse ++ found.bytes, paired && found.paired⟩ := by
  obtain ⟨more, rfl⟩ | ⟨b, more, hb, rfl⟩ | ⟨c, b, more, hc, rfl⟩ |
    ⟨w, x, y, z, n, more, hn, rfl⟩ | hnone := head_cases text
  · rw [scan_quote] at h
    cases h
    exact ⟨_, _, .nil, rfl, by simp [Draft.body]⟩
  · rw [scan_plain _ hb, Draft.push] at h
    obtain ⟨found, written, hwrites, rfl, rfl⟩ := exists_writes h
    exact ⟨_, _, .plain hb hwrites, rfl, by simp⟩
  · rw [scan_short _ hc, Draft.push] at h
    obtain ⟨found, written, hwrites, rfl, rfl⟩ := exists_writes h
    exact ⟨_, _, .short hc hwrites, rfl, by simp⟩
  · rw [scan_unit _ hn] at h
    by_cases hhigh : IsHigh n
    · rw [pushUnit_high _ hhigh] at h
      by_cases hstarts : StartsLow more
      · obtain ⟨w', x', y', z', low, more, rfl, hlow, isLow⟩ := hstarts
        rw [scan_unit _ hlow, pushUnit_low _ _ _ isLow, Option.isNone_none, Bool.and_true,
          scan_pushCodePoint] at h
        obtain ⟨found, written, hwrites, rfl, rfl⟩ := exists_writes h
        exact ⟨_, _, .pair hn hlow hhigh isLow hwrites, rfl, body_precede ..⟩
      · rw [scan_waiting hstarts] at h
        obtain ⟨found, written, hwrites, rfl, rfl⟩ := exists_writes h
        have alone : ¬ StartsLow written := by
          rintro ⟨w', x', y', z', low, more, rfl, hlow⟩
          exact hstarts ⟨_, _, _, _, low, _, rfl, hlow⟩
        exact ⟨_, _, .high hn hhigh alone hwrites, rfl, by simp [unpaired]⟩
    · by_cases hlow : IsLow n
      · rw [pushUnit_lonely _ _ hlow] at h
        obtain ⟨found, written, hwrites, rfl, rfl⟩ := exists_writes h
        exact ⟨_, _, .low hn hlow hwrites, rfl, by simp [unpaired]⟩
      · rw [pushUnit_single _ ⟨hhigh, hlow⟩, scan_pushCodePoint] at h
        obtain ⟨found, written, hwrites, rfl, rfl⟩ := exists_writes h
        exact ⟨_, _, .unit hn ⟨hhigh, hlow⟩ hwrites, rfl, body_precede ..⟩
  · rw [hnone] at h
    cases h
termination_by text.length

/-- A body is scanned if and only if it is written up to the closing quote. -/
theorem scan_eq_some_iff {text rest : Bytes} {body : StringBody} :
    scan .empty text = some (body, rest) ↔
      ∃ written, Writes body written ∧ text = written ++ 0x22 :: rest := by
  constructor
  · intro h
    obtain ⟨found, written, hwrites, htext, rfl⟩ := exists_writes h
    exact ⟨written, by simpa using hwrites, htext⟩
  · rintro ⟨written, hwrites, rfl⟩
    have hscan := scan_of_writes hwrites [] true rest
    rwa [Bool.true_and] at hscan

theorem scan_append_quote {body : StringBody} {text : Bytes} (h : Writes body text) (rest : Bytes) :
    scan .empty (text ++ 0x22 :: rest) = some (body, rest) := scan_eq_some_iff.2 ⟨text, h, rfl⟩

/-! ### Compact texts -/

theorem spells_append {bytes text bytes' text' : Bytes} (h : Spells bytes text)
    (h' : Spells bytes' text') : Spells (bytes ++ bytes') (text ++ text') := by
  induction h with
  | nil => exact h'
  | plain hb _ ih => exact .plain hb ih
  | short hb _ ih => exact .short hb ih
  | unit hn single _ ih => rw [List.append_assoc]; exact .unit hn single ih
  | pair hn hn' isHigh isLow _ ih =>
    rw [List.append_assoc]
    exact .pair hn hn' isHigh isLow ih

/-- The code of a control character is the byte that stands for it. -/
theorem unit?_hexDigit {b : UInt8} (h : b < 0x20) :
    unit? 0x30 0x30 (hexDigit (b / 16)) (hexDigit (b % 16)) = some b.toNat ∧
      String.utf8EncodeChar (Char.ofNat b.toNat) = [b] := by
  have hall : ∀ n < 32, unit? 0x30 0x30 (hexDigit (n.toUInt8 / 16)) (hexDigit (n.toUInt8 % 16)) =
      some n.toUInt8.toNat ∧
        String.utf8EncodeChar (Char.ofNat n.toUInt8.toNat) = [n.toUInt8] := by
    decide
  have hb : b.toNat.toUInt8 = b := UInt8.ofNat_toNat
  have hlt : b.toNat < 32 := h
  have := hall b.toNat hlt
  rwa [hb] at this

theorem spells_escape (b : UInt8) : Spells [b] (escape b) := by
  have short {c : UInt8} (h : shortEscape? c = some b) : Spells [b] [0x5C, c] := .short h .nil
  unfold escape
  -- seven bytes have an escape of their own
  iterate 7
    split
    · next h => exact short (by rw [h]; rfl)
  split
  · next h =>
    obtain ⟨hunit, hchar⟩ := unit?_hexDigit h
    have hlt := b.toNat_lt
    have hspells := Spells.unit hunit (.inl (by omega)) .nil
    rwa [hchar] at hspells
  · next h₁ h₂ _ _ _ _ _ h =>
    exact .plain (by simp [isPlain, h₁, h₂, UInt8.not_lt.1 h]) .nil

/-- The compact text of a body is one of its spellings. -/
theorem spells_flatMap_escape (bytes : Bytes) : Spells bytes (bytes.flatMap escape) := by
  induction bytes with
  | nil => exact .nil
  | cons b rest ih => exact spells_append (spells_escape b) ih

end Beacon.Json.StringBody
