import Beacon.Json.Token
import Mathlib.Data.List.TakeDrop
import Mathlib.Data.List.TakeWhile

/-!
# The grammar of numbers

A number has a sign or none, a whole part that is zero or does not start with one, a fraction or
none, and an exponent or none. `IsNumeral` says so, and reading is exact for it: what is read is a
numeral, behind which no digit stands (`Token.number?_sound`), and a numeral is read to its end in
front of anything that does not continue it (`Token.number?_complete`).
-/

namespace Beacon.Json.Token

variable {text rest found : Bytes}

/-! ### Parts of numbers -/

/-- At least one digit, and nothing else. -/
def IsDigits (text : Bytes) : Prop := text ≠ [] ∧ ∀ b ∈ text, isDigit b = true

/-- A zero alone, or digits that do not start with one. -/
def IsWholePart (text : Bytes) : Prop :=
  text = [0x30] ∨ IsDigits text ∧ text.head? ≠ some 0x30

/-- A point and digits, or nothing. -/
def IsFraction (text : Bytes) : Prop :=
  text = [] ∨ ∃ digits, IsDigits digits ∧ text = 0x2E :: digits

/-- The letter of an exponent. -/
def IsExponentLetter (b : UInt8) : Prop := b = 0x65 ∨ b = 0x45

/-- A sign, or nothing. -/
def IsExponentSign (text : Bytes) : Prop := text = [] ∨ text = [0x2B] ∨ text = [0x2D]

/-- The letter, a sign or none, and digits, or nothing. -/
def IsExponent (text : Bytes) : Prop :=
  text = [] ∨ ∃ letter sign digits, IsExponentLetter letter ∧ IsExponentSign sign ∧
    IsDigits digits ∧ text = letter :: (sign ++ digits)

/-- A number without its sign. -/
def IsUnsigned (text : Bytes) : Prop :=
  ∃ whole fraction exponent, IsWholePart whole ∧ IsFraction fraction ∧ IsExponent exponent ∧
    text = whole ++ fraction ++ exponent

/-- A number as it may stand in a text. -/
def IsNumeral (text : Bytes) : Prop :=
  IsUnsigned text ∨ ∃ rest, IsUnsigned rest ∧ text = 0x2D :: rest

/-! ### What may follow them -/

/-- A text that does not go on with a digit. -/
def NoDigit (text : Bytes) : Prop := ∀ b ∈ text.head?, isDigit b = false

/-- Whether a byte may continue a number. -/
def continuesNumber (b : UInt8) : Bool := isDigit b || b = 0x2E || b = 0x65 || b = 0x45

/-- A text that does not continue a number in front of it. -/
def IsApart (text : Bytes) : Prop := ∀ b ∈ text.head?, continuesNumber b = false

theorem isApart_nil : IsApart [] := nofun

theorem isApart_cons {b : UInt8} :
    IsApart (b :: rest) ↔ isDigit b = false ∧ b ≠ 0x2E ∧ ¬ IsExponentLetter b := by
  simp [IsApart, continuesNumber, IsExponentLetter, and_assoc]

theorem noDigit_nil : NoDigit [] := nofun

theorem noDigit_cons {b : UInt8} : NoDigit (b :: rest) ↔ isDigit b = false := by simp [NoDigit]

theorem IsApart.noDigit (h : IsApart text) : NoDigit text := by
  cases text with
  | nil => exact noDigit_nil
  | cons b rest => exact noDigit_cons.2 (isApart_cons.1 h).1

/-- An exponent does not start with a digit. -/
theorem IsExponent.noDigit (h : IsExponent text) (apart : IsApart rest) :
    NoDigit (text ++ rest) := by
  obtain rfl | ⟨letter, sign, digits, rfl | rfl, -, -, rfl⟩ := h
  · exact apart.noDigit
  all_goals exact noDigit_cons.2 rfl

/-- A fraction does not start with a digit. -/
theorem IsFraction.noDigit (h : IsFraction text) (noDigit : NoDigit rest) :
    NoDigit (text ++ rest) := by
  obtain rfl | ⟨digits, -, rfl⟩ := h
  · exact noDigit
  · exact noDigit_cons.2 rfl

/-! ### Reading the parts -/

/-- Digits are read up to what is none. -/
theorem digits?_eq_some_iff :
    digits? text = some (found, rest) ↔ IsDigits found ∧ NoDigit rest ∧ text = found ++ rest := by
  have hdigits : digits? text = some (found, rest) ↔
      found = text.takeWhile isDigit ∧ rest = text.dropWhile isDigit ∧ found ≠ [] := by
    rw [digits?, List.span_eq_takeWhile_dropWhile]
    split
    · next heq => simp_all
    · next hne =>
      constructor
      · intro h
        obtain ⟨rfl, rfl⟩ := Prod.mk.inj (Option.some.inj h)
        exact ⟨rfl, rfl, fun hnil => hne _ (by rw [hnil])⟩
      · rintro ⟨rfl, rfl, -⟩
        rfl
  rw [hdigits]
  constructor
  · rintro ⟨rfl, rfl, hne⟩
    refine ⟨⟨hne, fun b hb => List.mem_takeWhile_imp hb⟩, fun b hb => ?_,
      List.takeWhile_append_dropWhile.symm⟩
    have hhead := List.head?_dropWhile_not isDigit text
    rw [Option.mem_def.1 hb] at hhead
    simpa using hhead
  · rintro ⟨⟨hne, hall⟩, hrest, rfl⟩
    have hnone : rest.takeWhile isDigit = [] ∧ rest.dropWhile isDigit = rest := by
      cases rest with
      | nil => exact ⟨rfl, rfl⟩
      | cons b rest => simp [noDigit_cons.1 hrest]
    rw [List.takeWhile_append_of_pos hall, List.dropWhile_append_of_pos hall, hnone.1, hnone.2,
      List.append_nil]
    exact ⟨rfl, rfl, hne⟩

/-- A whole part is read up to what is no digit. -/
theorem wholePart?_eq_some_iff :
    wholePart? text = some (found, rest) ↔
      IsWholePart found ∧ NoDigit rest ∧ text = found ++ rest := by
  have hcases : wholePart? text = some (found, rest) ↔
      digits? text = some (found, rest) ∧ ¬ ∃ b more, found = 0x30 :: b :: more := by
    unfold wholePart?
    split
    · next b more rest' heq =>
      rw [heq]
      constructor
      · nofun
      · rintro ⟨h, hne⟩
        cases h
        exact absurd ⟨_, _, rfl⟩ hne
    · next hne =>
      refine ⟨fun h => ⟨h, ?_⟩, And.left⟩
      rintro ⟨b, more, rfl⟩
      exact hne _ _ _ h
  have hwhole : IsWholePart found ↔
      IsDigits found ∧ ¬ ∃ b more, found = 0x30 :: b :: more := by
    match found with
    | [] => simp [IsWholePart, IsDigits]
    | [b] =>
      by_cases hb : b = 0x30
      · subst hb
        simp [IsWholePart, IsDigits, isDigit]
      · simp [IsWholePart, hb]
    | b :: c :: more => simp [IsWholePart]
  rw [hcases, digits?_eq_some_iff, hwhole, and_right_comm]

/-- A fraction is read up to what is no digit, unless there is none. -/
theorem fraction?_eq_some_iff (h : NoDigit text) :
    fraction? text = some (found, rest) ↔
      IsFraction found ∧ NoDigit rest ∧ (found = [] → rest.head? ≠ some 0x2E) ∧
        text = found ++ rest := by
  unfold fraction?
  split
  · next after =>
    simp only [Option.map_eq_some_iff, Prod.exists, Prod.mk.injEq, digits?_eq_some_iff]
    constructor
    · rintro ⟨digits, _, ⟨hdigits, hrest, rfl⟩, rfl, rfl⟩
      exact ⟨.inr ⟨digits, hdigits, rfl⟩, hrest, nofun, rfl⟩
    · rintro ⟨rfl | ⟨digits, hdigits, rfl⟩, hrest, hhead, heq⟩
      · exact absurd (congrArg List.head? heq).symm (hhead rfl)
      · exact ⟨digits, rest, ⟨hdigits, hrest, (List.cons.inj heq).2⟩, rfl, rfl⟩
  · next hne =>
    rw [Option.some.injEq, Prod.mk.injEq]
    constructor
    · rintro ⟨rfl, rfl⟩
      refine ⟨.inl rfl, h, fun _ hhead => ?_, rfl⟩
      obtain ⟨rest, rfl⟩ := List.head?_eq_some_iff.1 hhead
      exact hne rest rfl
    · rintro ⟨rfl | ⟨digits, -, rfl⟩, -, -, rfl⟩
      · exact ⟨rfl, rfl⟩
      · exact absurd rfl (hne _)

/-- A sign is cut off, and there is none before a digit. -/
theorem exponentSign_append {sign digits : Bytes} (h : IsExponentSign sign)
    (hdigits : IsDigits digits) (rest : Bytes) :
    exponentSign (sign ++ (digits ++ rest)) = (sign, digits ++ rest) := by
  obtain rfl | rfl | rfl := h
  · obtain ⟨b, more, rfl⟩ := List.exists_cons_of_ne_nil hdigits.1
    have hb : ¬ (b = 0x2B ∨ b = 0x2D) := by
      have hdigit := hdigits.2 b List.mem_cons_self
      rintro (rfl | rfl) <;> cases hdigit
    simp [exponentSign, hb]
  all_goals rfl

/-- What is cut off as a sign is one. -/
theorem exponentSign_sound (text : Bytes) :
    IsExponentSign (exponentSign text).1 ∧
      text = (exponentSign text).1 ++ (exponentSign text).2 := by
  unfold exponentSign
  split
  · split
    · next hb => exact ⟨by obtain rfl | rfl := hb <;> simp [IsExponentSign], rfl⟩
    · exact ⟨.inl rfl, rfl⟩
  · exact ⟨.inl rfl, rfl⟩

/-- An exponent is read up to what is no digit, unless there is none. -/
theorem exponent?_eq_some_iff (h : NoDigit text) :
    exponent? text = some (found, rest) ↔
      IsExponent found ∧ NoDigit rest ∧ (found = [] → ∀ b ∈ rest.head?, ¬ IsExponentLetter b) ∧
        text = found ++ rest := by
  cases text with
  | nil => simp [exponent?, IsExponent, NoDigit]; grind
  | cons b after =>
    by_cases hb : b = 0x65 ∨ b = 0x45
    · simp only [exponent?, if_pos hb, Option.map_eq_some_iff, Prod.exists, Prod.mk.injEq,
        digits?_eq_some_iff]
      constructor
      · obtain ⟨hsign, hafter⟩ := exponentSign_sound after
        rintro ⟨digits, _, ⟨hdigits, hrest, heq⟩, rfl, rfl⟩
        refine ⟨.inr ⟨b, _, digits, hb, hsign, hdigits, rfl⟩, hrest, nofun, ?_⟩
        rw [heq] at hafter
        rw [List.cons_append, List.cons_append, List.append_assoc, ← hafter]
      · rintro ⟨rfl | ⟨letter, sign, digits, -, hsign, hdigits, rfl⟩, hrest, hhead, heq⟩
        · exact absurd hb (hhead rfl b (congrArg List.head? heq).symm)
        · obtain ⟨rfl, hafter⟩ := List.cons.inj heq
          rw [List.append_eq, List.append_assoc] at hafter
          rw [hafter, exponentSign_append hsign hdigits]
          exact ⟨digits, rest, ⟨hdigits, hrest, rfl⟩, rfl, rfl⟩
    · simp only [exponent?, if_neg hb, Option.some.injEq, Prod.mk.injEq]
      constructor
      · rintro ⟨rfl, rfl⟩
        exact ⟨.inl rfl, h, fun _ c hc => (Option.some.inj hc) ▸ hb, rfl⟩
      · rintro ⟨rfl | ⟨letter, sign, digits, hletter, -, -, rfl⟩, -, -, heq⟩
        · exact ⟨rfl, heq⟩
        · exact absurd ((List.cons.inj heq).1 ▸ hletter) hb

/-! ### Reading numbers -/

theorem unsigned?_eq_some_iff :
    unsigned? text = some (found, rest) ↔
      ∃ whole fraction exponent rest₁ rest₂, wholePart? text = some (whole, rest₁) ∧
        fraction? rest₁ = some (fraction, rest₂) ∧ exponent? rest₂ = some (exponent, rest) ∧
        found = whole ++ fraction ++ exponent := by
  constructor
  · intro h
    obtain ⟨⟨whole, rest₁⟩, hwhole, h⟩ := Option.bind_eq_some_iff.1 h
    obtain ⟨⟨fraction, rest₂⟩, hfraction, h⟩ := Option.bind_eq_some_iff.1 h
    obtain ⟨⟨exponent, rest₃⟩, hexponent, h⟩ := Option.bind_eq_some_iff.1 h
    cases h
    exact ⟨_, _, _, _, _, hwhole, hfraction, hexponent, rfl⟩
  · rintro ⟨whole, fraction, exponent, rest₁, rest₂, hwhole, hfraction, hexponent, rfl⟩
    exact Option.bind_eq_some_iff.2 ⟨_, hwhole, Option.bind_eq_some_iff.2
      ⟨_, hfraction, Option.bind_eq_some_iff.2 ⟨_, hexponent, rfl⟩⟩⟩

theorem unsigned?_sound (h : unsigned? text = some (found, rest)) :
    IsUnsigned found ∧ NoDigit rest ∧ text = found ++ rest := by
  obtain ⟨whole, fraction, exponent, rest₁, rest₂, hwhole, hfraction, hexponent, rfl⟩ :=
    unsigned?_eq_some_iff.1 h
  obtain ⟨isWhole, noDigit₁, rfl⟩ := wholePart?_eq_some_iff.1 hwhole
  obtain ⟨isFraction, noDigit₂, -, rfl⟩ := (fraction?_eq_some_iff noDigit₁).1 hfraction
  obtain ⟨isExponent, noDigit, -, rfl⟩ := (exponent?_eq_some_iff noDigit₂).1 hexponent
  exact ⟨⟨whole, fraction, exponent, isWhole, isFraction, isExponent, rfl⟩, noDigit,
    by simp only [List.append_assoc]⟩

theorem unsigned?_complete (h : IsUnsigned found) (apart : IsApart rest) :
    unsigned? (found ++ rest) = some (found, rest) := by
  obtain ⟨whole, fraction, exponent, isWhole, isFraction, isExponent, rfl⟩ := h
  have noDigit₂ : NoDigit (exponent ++ rest) := isExponent.noDigit apart
  have noDigit₁ : NoDigit (fraction ++ (exponent ++ rest)) := isFraction.noDigit noDigit₂
  have hpoint : (exponent ++ rest).head? ≠ some 0x2E := by
    obtain rfl | ⟨letter, sign, digits, hletter, -, -, rfl⟩ := isExponent
    · intro hhead
      obtain ⟨more, hmore⟩ := List.head?_eq_some_iff.1 hhead
      rw [List.nil_append] at hmore
      exact (isApart_cons.1 (hmore ▸ apart)).2.1 rfl
    · rintro ⟨⟩
      rcases hletter with h | h <;> cases h
  have hletter : ∀ b ∈ rest.head?, ¬ IsExponentLetter b := by
    intro b hb
    obtain ⟨more, rfl⟩ := List.head?_eq_some_iff.1 hb
    exact (isApart_cons.1 apart).2.2
  refine unsigned?_eq_some_iff.2 ⟨whole, fraction, exponent, fraction ++ (exponent ++ rest),
    exponent ++ rest, ?_, ?_, ?_, rfl⟩
  · exact wholePart?_eq_some_iff.2 ⟨isWhole, noDigit₁, by simp only [List.append_assoc]⟩
  · exact (fraction?_eq_some_iff noDigit₁).2 ⟨isFraction, noDigit₂, fun _ => hpoint, rfl⟩
  · exact (exponent?_eq_some_iff noDigit₂).2 ⟨isExponent, apart.noDigit, fun _ => hletter, rfl⟩

/-- What a number starts with, if it has no sign. -/
theorem IsUnsigned.head (h : IsUnsigned text) :
    ∃ b more, text = b :: more ∧ isDigit b = true := by
  obtain ⟨whole, fraction, exponent, hwhole, -, -, rfl⟩ := h
  obtain rfl | ⟨⟨hne, hall⟩, -⟩ := hwhole
  · exact ⟨0x30, fraction ++ exponent, rfl, rfl⟩
  · obtain ⟨b, more, rfl⟩ := List.exists_cons_of_ne_nil hne
    exact ⟨b, more ++ fraction ++ exponent, by simp, hall b List.mem_cons_self⟩

/-- What a number starts with. -/
theorem IsNumeral.head (h : IsNumeral text) :
    ∃ b more, text = b :: more ∧ (b = 0x2D ∨ isDigit b = true) := by
  obtain h | ⟨rest, -, rfl⟩ := h
  · obtain ⟨b, more, rfl, hb⟩ := h.head
    exact ⟨b, more, rfl, .inr hb⟩
  · exact ⟨0x2D, rest, rfl, .inl rfl⟩

theorem number?_of_ne {b : UInt8} (h : b ≠ 0x2D) : number? (b :: text) = unsigned? (b :: text) := by
  unfold number?
  split
  · next heq => cases heq; exact absurd rfl h
  · rfl

/-- What is read as a number is one, and no digit follows it. -/
theorem number?_sound (h : number? text = some (found, rest)) :
    IsNumeral found ∧ NoDigit rest ∧ text = found ++ rest := by
  cases text with
  | nil => cases h
  | cons b after =>
    by_cases hb : b = 0x2D
    · subst hb
      obtain ⟨⟨unsigned, _⟩, hunsigned, heq⟩ := Option.map_eq_some_iff.1 h
      cases heq
      obtain ⟨isUnsigned, noDigit, rfl⟩ := unsigned?_sound hunsigned
      exact ⟨.inr ⟨unsigned, isUnsigned, rfl⟩, noDigit, rfl⟩
    · rw [number?_of_ne hb] at h
      obtain ⟨isUnsigned, noDigit, heq⟩ := unsigned?_sound h
      exact ⟨.inl isUnsigned, noDigit, heq⟩

/-- A number is read to its end. -/
theorem number?_complete (h : IsNumeral found) (apart : IsApart rest) :
    number? (found ++ rest) = some (found, rest) := by
  obtain h | ⟨unsigned, h, rfl⟩ := h
  · obtain ⟨b, more, rfl, hb⟩ := h.head
    have hne : b ≠ 0x2D := by
      rintro rfl
      cases hb
    rw [List.cons_append, number?_of_ne hne]
    exact unsigned?_complete h apart
  · rw [List.cons_append, number?, unsigned?_complete h apart]
    rfl

/-- The numerals are the texts that are read as numbers with nothing left. -/
theorem number?_self_iff : number? text = some (text, []) ↔ IsNumeral text := by
  constructor
  · exact fun h => (number?_sound h).1
  · intro h
    have hnumber := number?_complete h isApart_nil
    rwa [List.append_nil] at hnumber

end Beacon.Json.Token
