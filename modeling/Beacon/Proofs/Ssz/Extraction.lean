import Beacon.Proofs.Ssz.FixedSize

/-!
# Extraction at any cursor

Octets are extracted at a cursor by adding their number to it, holding the sum against the length of
the bytes, and taking what lies between the two. `Sums.extract` takes these steps one by one, for
both things that can become of a sum beyond the last 64-bit position: it is noticed, as in
`Ssz.cut`, or it starts again at zero.

* `isExact_extract` says what comes of an extraction. It never gives other octets than those at the
  cursor, and it is only refused for too few of them, but a cursor near the last position makes it
  crash (`Sums.Crashes`);
* `Sums.takes_iff` says so of one extraction as a step from a cursor to the next one, and
  `Sums.threads_iff` follows the cursor through any number of them;
* `extraction_outcomes` puts this together, and `last_cursor_crashes` is an extraction beyond the
  bytes that is not refused.
-/

namespace Beacon

/-- A number is written in the octets that it was read from. -/
theorem ByteVector.toList_ofUInt64 {octets : Bytes} {value : UInt64} (length : octets.length = 8)
    (h : value.toNat = Bytes.toNat octets) : (ofUInt64 value).toList = octets := by
  show Bytes.ofNat 8 value.toNat = octets
  rw [h, ← length]
  exact Bytes.ofNat_toNat octets

namespace Ssz

/-! ### Sums of positions -/

/-- What becomes of a sum beyond the last 64-bit position. -/
inductive Sums where
  /-- It is noticed: there is no sum. -/
  | checked
  /-- It starts again at zero. -/
  | wrapping

/-- The sum of two positions. -/
def Sums.add? : Sums → UInt64 → UInt64 → Option UInt64
  | .checked, a, b => if a.toNat + b.toNat < UInt64.size then some (a + b) else none
  | .wrapping, a, b => some (a + b)

section Sums

variable {a b : UInt64}

theorem toNat_add_of_lt (h : a.toNat + b.toNat < UInt64.size) :
    (a + b).toNat = a.toNat + b.toNat := by
  rw [UInt64.toNat_add]
  exact Nat.mod_eq_of_lt h

/-- A sum that starts again at zero is smaller than what is added. -/
theorem toNat_add_of_le (h : UInt64.size ≤ a.toNat + b.toNat) :
    (a + b).toNat + UInt64.size = a.toNat + b.toNat := by
  have hsize : UInt64.size = 2 ^ 64 := rfl
  have ha := a.toNat_lt
  have hb := b.toNat_lt
  rw [hsize] at h ⊢
  rw [UInt64.toNat_add]
  omega

theorem Sums.add?_of_lt (sums : Sums) (h : a.toNat + b.toNat < UInt64.size) :
    sums.add? a b = some (a + b) := by
  cases sums with
  | checked => exact if_pos h
  | wrapping => rfl

theorem Sums.checked_add?_of_le (h : UInt64.size ≤ a.toNat + b.toNat) :
    Sums.checked.add? a b = none :=
  if_neg (Nat.not_lt.2 h)

end Sums

/-! ### One extraction -/

/-- Extract `n` octets of a structure at a cursor. Nothing at all comes of it where the sum is
noticed to go too far, or where the octets to be taken would end before they begin. -/
def Sums.extract (sums : Sums) (structureName : String) (n : UInt64) (bytes : Bytes)
    (cursor : UInt64) : Option (Except DataError (UInt64 × ByteVector n.toNat)) :=
  match sums.add? cursor n with
  | none => none
  | some stop =>
    if bytes.length < stop.toNat then
      some (.error (.unreadable structureName "Not enough bytes to extract fixed bytes"))
    else if stop < cursor then none
    else
      match ByteVector.ofList? n.toNat ((bytes.take stop.toNat).drop cursor.toNat) with
      | some octets => some (.ok (stop, octets))
      | none => some (.error (.unreadable structureName "Invalid fixed bytes"))

/-- Extract a number of 64 bits of a structure at a cursor. -/
def Sums.extractNumber (sums : Sums) (structureName : String) (bytes : Bytes) (cursor : UInt64) :
    Option (Except DataError (UInt64 × UInt64)) :=
  (sums.extract structureName 8 bytes cursor).map
    (Except.map fun taken => (taken.1, ByteVector.toUInt64 taken.2))

/-- An extraction crashes if it ends beyond the last position. A sum that starts again at zero does
not show this, unless it comes to lie within the bytes. -/
def Sums.Crashes (sums : Sums) (bytes : Bytes) (cursor : UInt64) (n : Nat) : Prop :=
  match sums with
  | .checked => UInt64.size ≤ cursor.toNat + n
  | .wrapping => UInt64.size ≤ cursor.toNat + n ∧ cursor.toNat + n ≤ bytes.length + UInt64.size

/-- What comes of an extraction of `n` octets: what is made of the octets at the cursor if they are
all there, and an error about the structure if they are not, unless it crashes. -/
structure IsExact {α : Type} (structureName : String) (bytes : Bytes) (cursor : UInt64) (n : Nat)
    (crashes : Prop) (reads : α → Bytes → Prop)
    (result : Option (Except DataError (UInt64 × α))) : Prop where
  /-- It succeeds if and only if the bytes go on for so many octets. -/
  exists_ok_iff : (∃ taken, result = some (.ok taken)) ↔ cursor.toNat + n ≤ bytes.length
  /-- The cursor passes the octets that are read. -/
  of_ok : ∀ next value, result = some (.ok (next, value)) →
    next.toNat = cursor.toNat + n ∧ reads value ((bytes.drop cursor.toNat).take n)
  /-- The only error is that there are too few octets. -/
  error_iff : ∀ e, result = some (.error e) ↔
    e = .unreadable structureName "Not enough bytes to extract fixed bytes" ∧
      bytes.length < cursor.toNat + n ∧ ¬ crashes
  /-- Nothing at all comes of it where it crashes. -/
  none_iff : result = none ↔ crashes

namespace IsExact

variable {α β : Type} {structureName : String} {bytes : Bytes} {cursor next : UInt64} {n : Nat}
  {crashes : Prop} {reads : α → Bytes → Prop} {value : α}

theorem of_fits (fits : cursor.toNat + n ≤ bytes.length) (sound : ¬ crashes)
    (hnext : next.toNat = cursor.toNat + n)
    (hreads : reads value ((bytes.drop cursor.toNat).take n)) :
    IsExact structureName bytes cursor n crashes reads (some (.ok (next, value))) where
  exists_ok_iff := iff_of_true ⟨_, rfl⟩ fits
  of_ok := by
    rintro _ _ ⟨⟩
    exact ⟨hnext, hreads⟩
  error_iff _ := iff_of_false nofun fun h => Nat.not_lt.2 fits h.2.1
  none_iff := iff_of_false nofun sound

theorem of_short (short : bytes.length < cursor.toNat + n) (sound : ¬ crashes) :
    IsExact structureName bytes cursor n crashes reads
      (some (.error (.unreadable structureName "Not enough bytes to extract fixed bytes"))) where
  exists_ok_iff := iff_of_false nofun (Nat.not_le.2 short)
  of_ok := nofun
  error_iff e := by
    rw [and_iff_left ⟨short, sound⟩, Option.some.injEq, Except.error.injEq]
    exact eq_comm
  none_iff := iff_of_false nofun sound

theorem of_crashes (short : bytes.length < cursor.toNat + n) (crash : crashes) :
    IsExact structureName bytes cursor n crashes reads none where
  exists_ok_iff := iff_of_false nofun (Nat.not_le.2 short)
  of_ok := nofun
  error_iff _ := iff_of_false nofun fun h => h.2.2 crash
  none_iff := iff_of_true rfl crash

/-- What is made of the octets can be turned into something else. -/
theorem map {result : Option (Except DataError (UInt64 × α))} {reads' : β → Bytes → Prop}
    (f : α → β) (outcome : IsExact structureName bytes cursor n crashes reads result)
    (hreads : ∀ value octets, reads value octets → reads' (f value) octets) :
    IsExact structureName bytes cursor n crashes reads'
      (result.map (Except.map fun taken => (taken.1, f taken.2))) := by
  match result with
  | none =>
    have short : ¬ cursor.toNat + n ≤ bytes.length := fun fits =>
      absurd (outcome.exists_ok_iff.2 fits) nofun
    exact of_crashes (Nat.not_le.1 short) (outcome.none_iff.1 rfl)
  | some (.error e) =>
    obtain ⟨rfl, short, sound⟩ := (outcome.error_iff e).1 rfl
    exact of_short short sound
  | some (.ok (next, value)) =>
    obtain ⟨hnext, hvalue⟩ := outcome.of_ok next value rfl
    have sound : ¬ crashes := fun crash => absurd (outcome.none_iff.2 crash) nofun
    exact of_fits (outcome.exists_ok_iff.1 ⟨_, rfl⟩) sound hnext (hreads _ _ hvalue)

end IsExact

section Extraction

variable {bytes : Bytes} {cursor n : UInt64}

/-- Up to the last position an extraction is a cut, whatever becomes of greater sums. -/
theorem Sums.extract_of_lt (sums : Sums) (structureName : String) (bytes : Bytes)
    (h : cursor.toNat + n.toNat < UInt64.size) :
    sums.extract structureName n bytes cursor =
      answer? structureName (cut n.toNat bytes cursor) := by
  have hstop := toNat_add_of_lt h
  have horder : ¬ cursor + n < cursor := by
    rw [UInt64.lt_iff_toNat_lt, hstop]
    omega
  rw [extract, sums.add?_of_lt h, cut, if_neg (Nat.not_le.2 h)]
  simp only [hstop, if_neg horder]
  by_cases fits : cursor.toNat + n.toNat ≤ bytes.length
  · have hoctets : ByteVector.ofList? n.toNat
        ((bytes.take (cursor.toNat + n.toNat)).drop cursor.toNat) =
        some ⟨(bytes.drop cursor.toNat).take n.toNat, by
          simp only [List.length_take, List.length_drop]; omega⟩ := by
      rw [ByteVector.ofList?_eq_some, List.drop_take, Nat.add_sub_cancel_left]
    rw [if_neg (Nat.not_lt.2 fits), dif_pos fits, hoctets, Nat.toUInt64, UInt64.ofNat_toNat]
    rfl
  · rw [if_pos (Nat.not_le.1 fits), dif_neg fits]
    rfl

/-- Where sums are noticed to go too far, an extraction is a cut at every cursor. -/
theorem Sums.extract_checked (structureName : String) (n : UInt64) (bytes : Bytes)
    (cursor : UInt64) :
    Sums.checked.extract structureName n bytes cursor =
      answer? structureName (cut n.toNat bytes cursor) := by
  rcases Nat.lt_or_ge (cursor.toNat + n.toNat) UInt64.size with h | h
  · exact Sums.checked.extract_of_lt structureName bytes h
  · rw [extract, checked_add?_of_le h, cut, if_pos h]
    rfl

theorem Sums.extractNumber_checked (structureName : String) (bytes : Bytes) (cursor : UInt64) :
    Sums.checked.extractNumber structureName bytes cursor =
      answer? structureName (cutUInt64 bytes cursor) := by
  rw [extractNumber, extract_checked]
  show ((answer? structureName (cut 8 bytes cursor)).map _) = _
  rw [cutUInt64]
  cases cut 8 bytes cursor with
  | ok taken => rfl
  | error e =>
    cases e with
    | tooShort => rfl
    | overflow => rfl

/-- What comes of an extraction at any cursor. -/
theorem isExact_extract (sums : Sums) (structureName : String) (n cursor : UInt64)
    (small : bytes.length < UInt64.size) :
    IsExact structureName bytes cursor n.toNat (sums.Crashes bytes cursor n.toNat)
      (fun octets octets' => octets.toList = octets')
      (sums.extract structureName n bytes cursor) := by
  rcases Nat.lt_or_ge (cursor.toNat + n.toNat) UInt64.size with h | h
  · have sound : ¬ sums.Crashes bytes cursor n.toNat := by
      cases sums with
      | checked => exact Nat.not_le.2 h
      | wrapping => exact fun crash => Nat.not_le.2 h crash.1
    rw [sums.extract_of_lt structureName bytes h]
    by_cases fits : cursor.toNat + n.toNat ≤ bytes.length
    · obtain ⟨next, octets, hcut⟩ := exists_cut h fits
      obtain ⟨-, -, hnext, hoctets⟩ := cut_eq_ok_iff.1 hcut
      rw [hcut]
      exact .of_fits fits sound hnext hoctets
    · rw [cut, if_neg (Nat.not_le.2 h), dif_neg fits]
      exact .of_short (Nat.not_le.1 fits) sound
  · have short : bytes.length < cursor.toNat + n.toNat := Nat.lt_of_lt_of_le small h
    cases sums with
    | checked =>
      rw [Sums.extract, Sums.checked_add?_of_le h]
      exact .of_crashes short h
    | wrapping =>
      -- the octets end before they begin, which only shows if they end within the bytes
      have hstop := toNat_add_of_le h
      have horder : cursor + n < cursor := by
        have hn := n.toNat_lt_size
        rw [UInt64.lt_iff_toNat_lt]
        omega
      rw [Sums.extract, Sums.add?]
      simp only [if_pos horder]
      by_cases fits : (cursor + n).toNat ≤ bytes.length
      · rw [if_neg (Nat.not_lt.2 fits)]
        exact .of_crashes short ⟨h, by omega⟩
      · rw [if_pos (Nat.not_le.1 fits)]
        exact .of_short short fun crash => by have hle := crash.2; omega

/-- What comes of the extraction of a number at any cursor. -/
theorem isExact_extractNumber (sums : Sums) (structureName : String) (cursor : UInt64)
    (small : bytes.length < UInt64.size) :
    IsExact structureName bytes cursor 8 (sums.Crashes bytes cursor 8)
      (fun value octets => value.toNat = Bytes.toNat octets)
      (sums.extractNumber structureName bytes cursor) :=
  (isExact_extract sums structureName 8 cursor small).map ByteVector.toUInt64
    fun octets _ h => h ▸ octets.toNat_toUInt64

end Extraction

/-! ### Threads of extractions -/

/-- An extraction, for any structure, from a cursor to the next one, and the octets it takes. -/
inductive Sums.Takes (sums : Sums) (bytes : Bytes) (cursor : UInt64) : Bytes → UInt64 → Prop where
  /-- Octets are taken as they are. -/
  | octets {structureName : String} {n next : UInt64} {octets : ByteVector n.toNat} :
    sums.extract structureName n bytes cursor = some (.ok (next, octets)) →
      sums.Takes bytes cursor octets.toList next
  /-- A number stands for the octets that it is written in. -/
  | number {structureName : String} {value next : UInt64} :
    sums.extractNumber structureName bytes cursor = some (.ok (next, value)) →
      sums.Takes bytes cursor (ByteVector.ofUInt64 value).toList next

/-- Extractions one after the other, each at the cursor that the one before leaves, and the pieces
that they take. -/
inductive Sums.Threads (sums : Sums) (bytes : Bytes) : UInt64 → List Bytes → UInt64 → Prop where
  /-- Nothing is taken, and the cursor stays. -/
  | nil {cursor : UInt64} : sums.Threads bytes cursor [] cursor
  /-- A first extraction and those after it. -/
  | cons {first next last : UInt64} {piece : Bytes} {pieces : List Bytes} :
    sums.Takes bytes first piece next → sums.Threads bytes next pieces last →
      sums.Threads bytes first (piece :: pieces) last

section Threads

variable {sums : Sums} {bytes piece : Bytes} {cursor next first last : UInt64}
  {pieces : List Bytes}

/-- What lies between two positions can be divided at any one between them. -/
theorem drop_take_append {a b c : Nat} (hab : a ≤ b) (hbc : b ≤ c) (bytes : Bytes) :
    (bytes.take b).drop a ++ (bytes.take c).drop b = (bytes.take c).drop a := by
  have hsplit : c - a = (b - a) + (c - b) := by omega
  rw [List.drop_take, List.drop_take, List.drop_take, hsplit, List.take_add, List.drop_drop,
    Nat.add_sub_of_le hab]

/-- An extraction takes what lies between its cursor and the next one, within the bytes. -/
theorem Sums.takes_iff (small : bytes.length < UInt64.size) :
    sums.Takes bytes cursor piece next ↔
      next.toNat = cursor.toNat + piece.length ∧ next.toNat ≤ bytes.length ∧
        piece = (bytes.take next.toNat).drop cursor.toNat := by
  have between {n : Nat} (hnext : next.toNat = cursor.toNat + n) :
      (bytes.take next.toNat).drop cursor.toNat = (bytes.drop cursor.toNat).take n := by
    rw [hnext, List.drop_take, Nat.add_sub_cancel_left]
  constructor
  · intro takes
    cases takes with
    | @octets structureName n _ octets h =>
      have outcome := isExact_extract sums structureName n cursor small
      have fits := outcome.exists_ok_iff.1 ⟨_, h⟩
      obtain ⟨hnext, hoctets⟩ := outcome.of_ok _ _ h
      rw [between hnext, octets.length_toList]
      exact ⟨hnext, hnext ▸ fits, hoctets⟩
    | @number structureName value _ h =>
      have outcome := isExact_extractNumber sums structureName cursor small
      have fits := outcome.exists_ok_iff.1 ⟨_, h⟩
      obtain ⟨hnext, hvalue⟩ := outcome.of_ok _ _ h
      have length : ((bytes.drop cursor.toNat).take 8).length = 8 := by
        rw [List.length_take, List.length_drop]
        omega
      rw [between hnext, ByteVector.length_toList]
      exact ⟨hnext, hnext ▸ fits, ByteVector.toList_ofUInt64 length hvalue⟩
  · rintro ⟨hnext, fits, hpiece⟩
    obtain ⟨n, hn⟩ : ∃ n : UInt64, n.toNat = piece.length :=
      ⟨.ofNat piece.length, UInt64.toNat_ofNat_of_lt' (by omega)⟩
    rw [← hn] at hnext
    have outcome := isExact_extract sums "" n cursor small
    obtain ⟨⟨next', octets⟩, h⟩ := outcome.exists_ok_iff.2 (hnext ▸ fits)
    obtain ⟨hnext', hoctets⟩ := outcome.of_ok _ _ h
    obtain rfl : next' = next := UInt64.toNat_inj.1 (hnext'.trans hnext.symm)
    rw [hpiece, between hnext, ← hoctets]
    exact .octets h

/-- Extractions one after the other take what lies between the first cursor and the last one, piece
by piece. They can take it in pieces of any lengths. -/
theorem Sums.threads_iff (small : bytes.length < UInt64.size) :
    sums.Threads bytes first pieces last ↔
      last.toNat = first.toNat + pieces.flatten.length ∧
        (pieces = [] ∨ last.toNat ≤ bytes.length) ∧
        pieces.flatten = (bytes.take last.toNat).drop first.toNat := by
  constructor
  · intro threads
    induction threads with
    | nil =>
      refine ⟨rfl, .inl rfl, ?_⟩
      rw [List.drop_take, Nat.sub_self, List.take_zero, List.flatten_nil]
    | @cons first next last piece pieces takes rest ih =>
      obtain ⟨hnext, fits, hpiece⟩ := (takes_iff small).1 takes
      obtain ⟨hlast, hends, hpieces⟩ := ih
      have within : last.toNat ≤ bytes.length := by
        rcases hends with rfl | hends
        · rwa [hlast, List.flatten_nil, List.length_nil, Nat.add_zero]
        · exact hends
      refine ⟨?_, .inr within, ?_⟩
      · rw [List.flatten_cons, List.length_append]
        omega
      · rw [List.flatten_cons, hpieces, hpiece]
        exact drop_take_append (by omega) (by omega) bytes
  · rintro ⟨hlast, hends, hpieces⟩
    induction pieces generalizing first with
    | nil =>
      obtain rfl : last = first := UInt64.toNat_inj.1 hlast
      exact .nil
    | cons piece pieces ih =>
      have within : last.toNat ≤ bytes.length := hends.resolve_left nofun
      rw [List.flatten_cons] at hlast hpieces
      rw [List.length_append] at hlast
      -- the cursor after the first piece, which is not beyond the last one
      obtain ⟨next, hnext⟩ : ∃ next : UInt64, next.toNat = first.toNat + piece.length :=
        ⟨.ofNat (first.toNat + piece.length), UInt64.toNat_ofNat_of_lt' (by omega)⟩
      rw [← drop_take_append (b := next.toNat) (by omega) (by omega)] at hpieces
      have hlength : piece.length = ((bytes.take next.toNat).drop first.toNat).length := by
        rw [List.length_drop, List.length_take]
        omega
      obtain ⟨hpiece, hrest⟩ := List.append_inj hpieces hlength
      have takes : sums.Takes bytes first piece next :=
        (takes_iff small).2 ⟨hnext, by omega, hpiece⟩
      exact .cons takes (ih (by omega) (.inr within) hrest)

end Threads

/-- **Extraction.** Whatever becomes of sums beyond the last position, octets are extracted at a
cursor if and only if the bytes go on for so many, and likewise a number and the eight octets that it
is written in; the cursor passes them. If the bytes do not go on so far the extraction is refused
for this, except where it crashes. Extractions one after the other take what lies between the first
cursor and the last one, in any pieces. -/
theorem extraction_outcomes (sums : Sums) (structureName : String) {bytes : Bytes}
    (small : bytes.length < UInt64.size) (cursor : UInt64) :
    (∀ n : UInt64,
      IsExact structureName bytes cursor n.toNat (sums.Crashes bytes cursor n.toNat)
        (fun octets octets' => octets.toList = octets')
        (sums.extract structureName n bytes cursor) ∧
      Sums.checked.extract structureName n bytes cursor =
        answer? structureName (cut n.toNat bytes cursor)) ∧
    IsExact structureName bytes cursor 8 (sums.Crashes bytes cursor 8)
      (fun value octets => value.toNat = Bytes.toNat octets)
      (sums.extractNumber structureName bytes cursor) ∧
    Sums.checked.extractNumber structureName bytes cursor =
      answer? structureName (cutUInt64 bytes cursor) ∧
    ∀ pieces last, sums.Threads bytes cursor pieces last ↔
      last.toNat = cursor.toNat + pieces.flatten.length ∧
        (pieces = [] ∨ last.toNat ≤ bytes.length) ∧
        pieces.flatten = (bytes.take last.toNat).drop cursor.toNat := by
  refine ⟨fun n => ⟨?_, ?_⟩, ?_, ?_, fun pieces last => ?_⟩
  · exact isExact_extract sums structureName n cursor small
  · exact Sums.extract_checked structureName n bytes cursor
  · exact isExact_extractNumber sums structureName cursor small
  · exact Sums.extractNumber_checked structureName bytes cursor
  · exact Sums.threads_iff small

/-- The octets of two numbers. -/
def twoNumbers : Bytes := (ByteVector.ofUInt64 1).toList ++ (ByteVector.ofUInt64 2).toList

/-- The second of two numbers is there, a number that starts within it is refused, and octets at the
last position crash. What the two are written in can also be taken in three pieces, one of them
empty, as far as the second number's fifth octet. -/
theorem extraction_outcomes_numbers :
    twoNumbers.length < UInt64.size ∧
      (∃ taken, Sums.wrapping.extractNumber "Test" twoNumbers 8 = some (.ok taken)) ∧
      Sums.wrapping.extractNumber "Test" twoNumbers 9 =
        some (.error (.unreadable "Test" "Not enough bytes to extract fixed bytes")) ∧
      Sums.wrapping.extract "Test" 4 twoNumbers 18446744073709551615 = none ∧
      Sums.checked.Threads twoNumbers 0 [[1, 0, 0], [], [0, 0, 0, 0, 0, 2, 0, 0, 0, 0]] 13 := by
  have small : twoNumbers.length < UInt64.size := by decide
  have outcomes := extraction_outcomes .wrapping "Test" small
  obtain ⟨-, second, -⟩ := outcomes 8
  obtain ⟨-, within, -⟩ := outcomes 9
  obtain ⟨beyond, -⟩ := outcomes 18446744073709551615
  obtain ⟨-, -, -, threads⟩ := extraction_outcomes .checked "Test" small 0
  refine ⟨small, ?_, ?_, ?_, ?_⟩
  · exact second.exists_ok_iff.2 (by decide)
  · exact (within.error_iff _).2 ⟨rfl, by decide, fun crash => absurd crash.1 (by decide)⟩
  · exact (beyond 4).1.none_iff.2 ⟨by decide, by decide⟩
  · exact (threads _ _).2 ⟨by decide, .inr (by decide), by decide⟩

/-- A number at the last position is beyond the bytes, but nothing refuses it. -/
theorem last_cursor_crashes :
    twoNumbers.length < UInt64.size ∧
      twoNumbers.length < UInt64.toNat 18446744073709551615 + 8 ∧
      (∀ sums : Sums, sums.extractNumber "Test" twoNumbers 18446744073709551615 = none) ∧
      answer? "Test" (cutUInt64 twoNumbers 18446744073709551615) = none := by
  refine ⟨by decide, by decide, fun sums => ?_, rfl⟩
  cases sums with
  | checked => rfl
  | wrapping => rfl

end Ssz

end Beacon
