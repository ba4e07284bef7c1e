import Beacon.Proofs.Json.Body
import Beacon.Proofs.Json.Numeral

/-!
# The grammar of tokens

A JSON text is a sequence of tokens with blanks before, between and after them. `Token.Text` says so
without a scanner: what a token may look like is `Token.Writes`. Texts whose strings contain no
surrogate without its partner are also described by `Token.Spelling`, with `Token.Spells` for the
tokens.

* `Token.next?_sound`, `Token.next?_complete`: a token is scanned if and only if it is one, up to
  its end, whatever follows that is no part of it;
* `Token.scan_eq_iff`: a text is cut into tokens without junk if and only if it consists of them;
* `Token.spells_write`: the compact text of a token is one of its spellings.
-/

namespace Beacon.Json.Token

variable {text rest more : Bytes} {token : Token} {tokens : List Token}

/-! ### Tokens -/

/-- What a token may look like. -/
inductive Spells : Token → Bytes → Prop where
  | sign {b : UInt8} {token : Token} (h : sign? b = some token) : Spells token [b]
  | word {word : Bytes} {token : Token} (h : (word, token) ∈ words) : Spells token word
  | number {text : Bytes} (h : number? text = some (text, [])) : Spells (.number text) text
  | string {bytes text : Bytes} (h : StringBody.Spells bytes text) :
    Spells (.string ⟨bytes, true⟩) (0x22 :: (text ++ [0x22]))

/-- What a token may look like, if a string may contain surrogates without their partners. -/
inductive Writes : Token → Bytes → Prop where
  | sign {b : UInt8} {token : Token} (h : sign? b = some token) : Writes token [b]
  | word {word : Bytes} {token : Token} (h : (word, token) ∈ words) : Writes token word
  | number {text : Bytes} (h : IsNumeral text) : Writes (.number text) text
  | string {body : StringBody} {text : Bytes} (h : body.Writes text) :
    Writes (.string body) (0x22 :: (text ++ [0x22]))

theorem Spells.writes (h : token.Spells text) : token.Writes text := by
  cases h with
  | sign h => exact .sign h
  | word h => exact .word h
  | number h => exact .number (number?_self_iff.1 h)
  | string h => exact .string h.writes

/-- Whether a token is a number. -/
def isNumber : Token → Bool
  | .number _ => true
  | _ => false

theorem of_isBlank {b : UInt8} (h : isBlank b = true) :
    sign? b = none ∧ isDigit b = false ∧ b ≠ 0x2D ∧ b ≠ 0x22 := by
  simp only [isBlank, Bool.or_eq_true, decide_eq_true_eq] at h
  rcases h with ((rfl | rfl) | rfl) | rfl <;> decide

theorem sign?_of_isDigit {b : UInt8} (h : b = 0x2D ∨ isDigit b = true) :
    sign? b = none ∧ b ≠ 0x22 := by
  rcases h with rfl | h
  · decide
  · have hne {c : UInt8} (hc : isDigit c = false) : b ≠ c := by
      rintro rfl
      rw [h] at hc
      cases hc
    refine ⟨?_, hne rfl⟩
    rw [sign?, if_neg (hne rfl), if_neg (hne rfl), if_neg (hne rfl), if_neg (hne rfl),
      if_neg (hne rfl), if_neg (hne rfl)]

theorem of_sign? {b : UInt8} (h : sign? b = some token) :
    token.isNumber = false ∧ token ≠ .junk := by
  unfold sign? at h
  iterate 6
    split at h
    · cases h
      exact ⟨rfl, nofun⟩
  cases h

theorem of_mem_words {word : Bytes} (h : (word, token) ∈ words) :
    token.isNumber = false ∧ token ≠ .junk := by
  simp only [words, List.mem_cons, List.not_mem_nil, or_false, Prod.mk.injEq] at h
  rcases h with ⟨-, rfl⟩ | ⟨-, rfl⟩ | ⟨-, rfl⟩ <;> exact ⟨rfl, nofun⟩

/-- Every token is written but the one that stands for the end of JSON. -/
theorem Writes.ne_junk (h : token.Writes text) : token ≠ .junk := by
  cases h with
  | sign h => exact (of_sign? h).2
  | word h => exact (of_mem_words h).2
  | number => nofun
  | string => nofun

/-- A token starts with something that is not blank and continues no number but as a digit. -/
theorem head_of_writes (h : token.Writes text) :
    ∃ b rest, text = b :: rest ∧ isBlank b = false ∧ b ≠ 0x2E ∧ ¬ IsExponentLetter b := by
  have of_digit {b : UInt8} (h : b = 0x2D ∨ isDigit b = true) :
      isBlank b = false ∧ b ≠ 0x2E ∧ ¬ IsExponentLetter b := by
    refine ⟨?_, ?_, ?_⟩
    · cases hb : isBlank b with
      | false => rfl
      | true =>
        obtain ⟨-, hdigit, hminus, -⟩ := of_isBlank hb
        simp [hdigit, hminus] at h
    · rintro rfl
      rcases h with h | h <;> cases h
    · rintro (rfl | rfl) <;> rcases h with h | h <;> cases h
  cases h with
  | @sign b _ h =>
    refine ⟨b, [], rfl, ?_, ?_, ?_⟩
    · cases hb : isBlank b with
      | false => rfl
      | true => rw [(of_isBlank hb).1] at h; cases h
    · rintro rfl
      cases h
    · rintro (rfl | rfl) <;> cases h
  | word h =>
    simp only [words, List.mem_cons, List.not_mem_nil, or_false, Prod.mk.injEq] at h
    rcases h with ⟨rfl, rfl⟩ | ⟨rfl, rfl⟩ | ⟨rfl, rfl⟩ <;>
      exact ⟨_, _, rfl, by decide, by decide, by unfold IsExponentLetter; decide⟩
  | number h =>
    obtain ⟨b, rest, rfl, hb⟩ := h.head
    exact ⟨b, rest, rfl, of_digit hb⟩
  | string h => exact ⟨_, _, rfl, by decide, by decide, by unfold IsExponentLetter; decide⟩

/-- Blanks in front of a token are skipped. -/
theorem dropWhile_isBlank {blanks : Bytes} (h : blanks.all isBlank = true)
    (writes : token.Writes text) : (blanks ++ (text ++ more)).dropWhile isBlank = text ++ more := by
  obtain ⟨b, tail, rfl, hb, -⟩ := head_of_writes writes
  rw [List.dropWhile_append_of_pos (List.all_eq_true.1 h), List.cons_append,
    List.dropWhile_cons_of_neg (by simp [hb])]

/-- A token is scanned up to its end. -/
theorem next?_complete (h : token.Writes text) (apart : token.isNumber = true → IsApart more) :
    next? (text ++ more) = some (token, more) := by
  cases h with
  | sign h => simp [next?, h]
  | word h =>
    simp only [words, List.mem_cons, List.not_mem_nil, or_false, Prod.mk.injEq] at h
    rcases h with ⟨rfl, rfl⟩ | ⟨rfl, rfl⟩ | ⟨rfl, rfl⟩ <;> rfl
  | number h =>
    have hnumber := number?_complete h (apart rfl)
    obtain ⟨b, rest, rfl, hb⟩ := h.head
    obtain ⟨hsign, hquote⟩ := sign?_of_isDigit hb
    rw [List.cons_append] at hnumber
    simp only [List.cons_append, next?, hsign, if_neg hquote, if_pos hb, hnumber, Option.map_some]
  | string h =>
    have hscan := StringBody.scan_append_quote h more
    simp [next?, sign?, hscan]

/-- A literal that is found is one. -/
theorem word?_sound (h : word? text = some (token, rest)) :
    ∃ word, (word, token) ∈ words ∧ text = word ++ rest := by
  obtain ⟨⟨word, token'⟩, hmem, hfound⟩ := List.exists_of_findSome?_eq_some h
  dsimp only at hfound
  split at hfound
  · next hp =>
    cases hfound
    obtain ⟨rest, rfl⟩ := List.isPrefixOf_iff_prefix.1 hp
    exact ⟨word, hmem, by rw [List.drop_left]⟩
  · cases hfound

/-- What is scanned is a token, and no digit follows a number. -/
theorem next?_sound (h : next? text = some (token, rest)) :
    ∃ written, token.Writes written ∧ text = written ++ rest ∧
      (token.isNumber = true → NoDigit rest) := by
  cases text with
  | nil => cases h
  | cons b after =>
    rw [next?] at h
    split at h
    · next token' hsign =>
      cases h
      refine ⟨[b], .sign hsign, rfl, fun hnumber => ?_⟩
      rw [(of_sign? hsign).1] at hnumber
      cases hnumber
    · split at h
      · next hquote =>
        obtain ⟨⟨body, _⟩, hscan, heq⟩ := Option.map_eq_some_iff.1 h
        cases heq
        obtain ⟨written, hwrites, rfl⟩ := StringBody.scan_eq_some_iff.1 hscan
        exact ⟨_, .string hwrites, by simp [hquote], nofun⟩
      · split at h
        · obtain ⟨⟨number, _⟩, hnumber, heq⟩ := Option.map_eq_some_iff.1 h
          cases heq
          obtain ⟨isNumeral, noDigit, htext⟩ := number?_sound hnumber
          exact ⟨number, .number isNumeral, htext, fun _ => noDigit⟩
        · obtain ⟨word, hmem, htext⟩ := word?_sound h
          refine ⟨word, .word hmem, htext, fun hnumber => ?_⟩
          rw [(of_mem_words hmem).1] at hnumber
          cases hnumber

/-! ### Texts -/

/-- A text that consists of tokens, with blanks before, between and after them. -/
inductive Spelling : List Token → Bytes → Prop where
  | nil {blanks : Bytes} (h : blanks.all isBlank = true) : Spelling [] blanks
  /-- A token after some blanks. What follows a number must not continue it. -/
  | cons {blanks text more : Bytes} {token : Token} {rest : List Token}
    (h : blanks.all isBlank = true) (spells : token.Spells text)
    (apart : token.isNumber = true → IsApart more) (spelling : Spelling rest more) :
    Spelling (token :: rest) (blanks ++ (text ++ more))

/-- A text that consists of tokens, if strings may contain surrogates without their partners. -/
inductive Text : List Token → Bytes → Prop where
  | nil {blanks : Bytes} (h : blanks.all isBlank = true) : Text [] blanks
  /-- A token after some blanks. What follows a number must not continue it. -/
  | cons {blanks text more : Bytes} {token : Token} {rest : List Token}
    (h : blanks.all isBlank = true) (writes : token.Writes text)
    (apart : token.isNumber = true → IsApart more) (following : Text rest more) :
    Text (token :: rest) (blanks ++ (text ++ more))

theorem Spelling.isText (h : Spelling tokens text) : Text tokens text := by
  induction h with
  | nil h => exact .nil h
  | cons h spells apart _ ih => exact .cons h spells.writes apart ih

theorem Text.junk_not_mem (h : Text tokens text) : Token.junk ∉ tokens := by
  induction h with
  | nil => exact List.not_mem_nil
  | cons _ writes _ _ ih =>
    rw [List.mem_cons, not_or]
    exact ⟨writes.ne_junk.symm, ih⟩

theorem Text.length_le (h : Text tokens text) : tokens.length ≤ text.length := by
  induction h with
  | nil => exact Nat.zero_le _
  | cons _ writes _ _ ih =>
    obtain ⟨b, tail, rfl, -⟩ := head_of_writes writes
    simp only [List.length_cons, List.length_append]
    omega

/-- A text does not start with what continues a number, but for digits. -/
theorem Text.isApart (h : Text tokens text) (noDigit : NoDigit text) : IsApart text := by
  cases text with
  | nil => exact isApart_nil
  | cons b rest =>
    refine isApart_cons.2 ⟨noDigit_cons.1 noDigit, ?_⟩
    have of_isBlank {b : UInt8} (h : isBlank b = true) : b ≠ 0x2E ∧ ¬ IsExponentLetter b := by
      refine ⟨?_, ?_⟩
      · rintro rfl
        cases h
      · rintro (rfl | rfl) <;> cases h
    generalize htext : b :: rest = text at h
    cases h with
    | nil hblanks =>
      subst htext
      exact of_isBlank (List.all_eq_true.1 hblanks b List.mem_cons_self)
    | @cons blanks written more token rest' hblanks writes =>
      cases blanks with
      | nil =>
        obtain ⟨c, tail, rfl, -, hc⟩ := head_of_writes writes
        exact (List.cons.inj htext).1 ▸ hc
      | cons c blanks =>
        have hblank := List.all_eq_true.1 hblanks c List.mem_cons_self
        exact (List.cons.inj htext).1 ▸ of_isBlank hblank

theorem scanFrom_done (done : List Token) (count : Nat) (text : Bytes) :
    scanFrom done count text = done.reverse ++ scanFrom [] count text := by
  induction count generalizing done text with
  | zero => simp [scanFrom]
  | succ count ih =>
    rw [scanFrom, scanFrom]
    split
    · simp
    · split
      · rw [ih, ih [_]]
        simp
      · simp

theorem scanFrom_complete (h : Text tokens text) {count : Nat} (hcount : tokens.length < count) :
    scanFrom [] count text = tokens := by
  induction h generalizing count with
  | nil h =>
    obtain ⟨count, rfl⟩ := Nat.exists_eq_add_one_of_ne_zero (Nat.ne_zero_of_lt hcount)
    rw [scanFrom, List.dropWhile_eq_nil_iff.2 (by simpa using h)]
    rfl
  | @cons blanks text more token rest h writes apart _ ih =>
    obtain ⟨count, rfl⟩ := Nat.exists_eq_add_one_of_ne_zero (Nat.ne_zero_of_lt hcount)
    obtain ⟨b, tail, hhead, -⟩ := head_of_writes writes
    have hnext := next?_complete writes apart
    rw [scanFrom, dropWhile_isBlank h writes]
    rw [hhead, List.cons_append] at hnext ⊢
    simp only [hnext]
    rw [scanFrom_done, ih (by simpa using hcount)]
    rfl

/-- A text that is cut into tokens without junk consists of these. -/
theorem scanFrom_sound {count : Nat} (hcount : text.length < count)
    (h : Token.junk ∉ scanFrom [] count text) : Text (scanFrom [] count text) text := by
  induction count generalizing text with
  | zero => cases hcount
  | succ count ih =>
    have hblanks : (text.takeWhile isBlank).all isBlank = true :=
      List.all_eq_true.2 fun _ hb => List.mem_takeWhile_imp hb
    have htext : text.takeWhile isBlank ++ text.dropWhile isBlank = text :=
      List.takeWhile_append_dropWhile
    cases hdrop : text.dropWhile isBlank with
    | nil =>
      rw [hdrop, List.append_nil] at htext
      rw [scanFrom, hdrop]
      exact .nil (htext ▸ hblanks)
    | cons b after =>
      cases hnext : next? (b :: after) with
      | none =>
        rw [scanFrom, hdrop] at h
        simp [hnext] at h
      | some found =>
        obtain ⟨token, rest⟩ := found
        have hscan : scanFrom [] (count + 1) text = token :: scanFrom [] count rest := by
          rw [scanFrom, hdrop]
          simp only [hnext]
          rw [scanFrom_done]
          rfl
        obtain ⟨written, writes, heq, noDigit⟩ := next?_sound hnext
        rw [hdrop, heq] at htext
        have hlength : rest.length < count := by
          obtain ⟨c, tail, rfl, -⟩ := head_of_writes writes
          have := congrArg List.length htext
          simp only [List.length_append, List.length_cons] at this
          omega
        rw [hscan] at h ⊢
        have hrest := ih hlength fun hmem => h (List.mem_cons_of_mem _ hmem)
        rw [← htext]
        exact .cons hblanks writes (fun hnumber => hrest.isApart (noDigit hnumber)) hrest

/-- The tokens of a text without junk are those that it consists of. -/
theorem scan_eq_iff : scan text = tokens ∧ Token.junk ∉ tokens ↔ Text tokens text := by
  constructor
  · rintro ⟨rfl, h⟩
    exact scanFrom_sound (Nat.lt_succ_self _) h
  · exact fun h => ⟨scanFrom_complete h (Nat.lt_succ_of_le h.length_le), h.junk_not_mem⟩

/-! ### Compact texts -/

/-- Whether a token has a text: a number must be one, and the surrogates of a string must have their
partners. -/
def isWritable : Token → Bool
  | .number text => number? text = some (text, [])
  | .string body => body.paired
  | .junk => false
  | _ => true

/-- The compact text of a token is one of its spellings. -/
theorem spells_write {token : Token} (h : token.isWritable = true) : token.Spells token.write := by
  cases token with
  | openObject => exact .sign rfl
  | closeObject => exact .sign rfl
  | openArray => exact .sign rfl
  | closeArray => exact .sign rfl
  | comma => exact .sign rfl
  | colon => exact .sign rfl
  | null => exact .word (by simp [words, write])
  | bool value => cases value <;> exact .word (by simp [words, write])
  | number text => exact .number (by simpa [isWritable] using h)
  | string body =>
    obtain ⟨bytes, paired⟩ := body
    obtain rfl : paired = true := h
    exact .string (StringBody.spells_flatMap_escape bytes)
  | junk => cases h

/-- A token in front of a text, without blanks. -/
theorem spelling_cons {token : Token} {rest : List Token} (h : token.isWritable = true)
    (apart : token.isNumber = true → IsApart text) (spelling : Spelling rest text) :
    Spelling (token :: rest) (token.write ++ text) := by
  rw [← List.nil_append (token.write ++ text)]
  exact .cons rfl (spells_write h) apart spelling

/-- No number goes on with a sign. -/
theorem isApart_sign {b : UInt8} {token : Token} (h : sign? b = some token) :
    IsApart (b :: text) := by
  have hdigit : isDigit b = false := by
    cases hb : isDigit b with
    | false => rfl
    | true => rw [(sign?_of_isDigit (.inr hb)).1] at h; cases h
  have hne {c : UInt8} (hc : sign? c = none) : b ≠ c := by
    rintro rfl
    rw [hc] at h
    cases h
  simp [IsApart, continuesNumber, hdigit, hne (c := 0x2E) rfl, hne (c := 0x65) rfl,
    hne (c := 0x45) rfl]

end Beacon.Json.Token
