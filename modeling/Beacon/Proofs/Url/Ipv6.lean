import Beacon.Proofs.Url.Ipv4
import Beacon.Url.Ipv6

/-!
# IPv6 addresses read back

An IPv6 address that is read has eight pieces of 16 bits (`Ipv6.isAddress_of_parse?`), and such an
address is read back from what is written for it (`Ipv6.parse?_write`): each piece with the colon
after it extends what is read by one piece, and the two colons stand for the zeros that the longest
run leaves out.
-/

namespace Beacon.Url.Ipv6

/-- Eight pieces of 16 bits. -/
def IsAddress (pieces : List Nat) : Prop := pieces.length = 8 ∧ ∀ n ∈ pieces, n < 65536

variable {draft : Draft} {text : List Char} {n : Nat}

/-! ### What is read -/

namespace Draft

/-- A draft that can be the start of an address. -/
structure IsSound (draft : Draft) : Prop where
  /-- There is room for the pieces. -/
  size_le : draft.size ≤ 8
  /-- Pieces have 16 bits. -/
  lt : ∀ n ∈ draft.pieces, n < 65536

theorem size_append (draft : Draft) (pieces : List Nat) :
    ({ draft with pieces := draft.pieces ++ pieces } : Draft).size =
      draft.size + pieces.length := by
  simp only [size, List.length_append]
  omega

theorem IsSound.append (sound : draft.IsSound) {pieces : List Nat}
    (room : draft.size + pieces.length ≤ 8) (h : ∀ n ∈ pieces, n < 65536) :
    ({ draft with pieces := draft.pieces ++ pieces } : Draft).IsSound where
  size_le := by rwa [size_append]
  lt n hn := (List.mem_append.1 hn).elim (sound.lt n) (h n)

theorem IsSound.append_one (sound : draft.IsSound) (full : draft.size ≠ 8) (hn : n < 65536) :
    ({ draft with pieces := draft.pieces ++ [n] } : Draft).IsSound := by
  have hle := sound.size_le
  refine sound.append (show draft.size + 1 ≤ 8 by omega) fun m hm => ?_
  rw [List.mem_singleton] at hm
  exact hm ▸ hn

theorem IsSound.gap (sound : draft.IsSound) (full : draft.size ≠ 8) (none : ¬ draft.gap.isSome)
    (place : Nat) : ({ draft with gap := some place } : Draft).IsSound where
  size_le := by
    have := sound.size_le
    simp only [size, if_neg none] at full this
    simp only [size, Option.isSome_some, if_true]
    omega
  lt := sound.lt

theorem IsSound.isAddress (sound : draft.IsSound) {pieces : List Nat}
    (h : draft.finish = some pieces) : IsAddress pieces := by
  rw [finish] at h
  split at h
  · next gap hgap =>
    have hsize := sound.size_le
    simp only [size, hgap, Option.isSome_some, if_true] at hsize
    cases h
    refine ⟨?_, fun n hn => ?_⟩
    · simp only [List.length_append, List.length_take, List.length_drop, List.length_replicate]
      omega
    · simp only [List.mem_append, List.mem_replicate] at hn
      obtain (htake | ⟨-, rfl⟩) | hdrop := hn
      · exact sound.lt n (List.mem_of_mem_take htake)
      · decide
      · exact sound.lt n (List.mem_of_mem_drop hdrop)
  · split at h
    · next hlength =>
      cases h
      exact ⟨hlength, sound.lt⟩
    · cases h

end Draft

theorem lt_of_piece {digits after : List Char} (hpiece : piece text = (digits, after))
    (h : Ipv4.ofDigits? 16 digits = some n) : n < 65536 := by
  have hlt := Ipv4.lt_of_ofDigits? h
  have hlength : (piece text).1.length ≤ 4 :=
    Nat.le_trans (List.takeWhile_sublist _).length_le (List.length_take_le _ _)
  rw [hpiece] at hlength
  exact Nat.lt_of_lt_of_le hlt (Nat.pow_le_pow_right (by decide) hlength)

theorem lt_of_octet? (h : octet? text = some n) : n < 256 := by
  simp only [octet?] at h
  split at h
  · cases h
  · split at h
    · cases h
    · split at h
      · split at h
        · next hlt =>
          cases h
          exact hlt
        · cases h
      · cases h

theorem tail?_facts {pieces : List Nat} (h : tail? text = some pieces) :
    pieces.length = 2 ∧ ∀ n ∈ pieces, n < 65536 := by
  simp only [tail?, Option.bind_eq_bind, Option.bind_eq_some_iff] at h
  obtain ⟨octets, hoctets, hpieces⟩ := h
  have hlt : ∀ n ∈ octets, n < 256 := by
    intro n hn
    have hmem := List.mem_map_of_mem (f := some) hn
    rw [← Text.mapM_eq_some_iff.1 hoctets] at hmem
    obtain ⟨part, -, hpart⟩ := List.mem_map.1 hmem
    exact lt_of_octet? hpart
  split at hpieces
  · next a b c d =>
    cases hpieces
    simp only [List.forall_mem_cons, List.not_mem_nil] at hlt
    refine ⟨rfl, fun n hn => ?_⟩
    simp only [List.mem_cons, List.not_mem_nil, or_false] at hn
    obtain ⟨ha, hb, hc, hd, -⟩ := hlt
    obtain rfl | rfl := hn <;> omega
  · cases hpieces

/-- Reading keeps drafts sound. -/
theorem isSound_of_readPieces (sound : draft.IsSound) {count : Nat} {result : Draft}
    (h : readPieces draft count text = some result) : result.IsSound := by
  fun_induction readPieces draft count text with
  | case1 =>
    cases h
    exact sound
  | case5 draft count rest full none ih => exact ih (sound.gap full none _) h
  | case7 draft count c rest full hc digits tail room hpiece =>
    obtain ⟨two, htwo, rfl⟩ := Option.map_eq_some_iff.1 h
    obtain ⟨hlength, hlt⟩ := tail?_facts htwo
    exact sound.append (by omega) hlt
  | case8 draft count c rest full hc digits hpiece =>
    obtain ⟨n, hn, rfl⟩ := Option.map_eq_some_iff.1 h
    exact sound.append_one full (lt_of_piece hpiece hn)
  | case10 draft count c rest full hc digits next more n hn hpiece ih =>
    exact ih (sound.append_one full (lt_of_piece hpiece hn)) h
  | case2 | case3 | case4 | case6 | case9 | case11 | case12 => cases h

/-- An address that is read has eight pieces of 16 bits. -/
theorem isAddress_of_parse? {pieces : List Nat} (h : parse? text = some pieces) :
    IsAddress pieces := by
  have start (gap : Option Nat) : (⟨[], gap⟩ : Draft).IsSound :=
    ⟨by cases gap <;> simp [Draft.size], fun _ hn => absurd hn List.not_mem_nil⟩
  unfold parse? at h
  split at h
  · obtain ⟨draft, hread, hfinish⟩ := Option.bind_eq_some_iff.1 h
    exact (isSound_of_readPieces (start _) hread).isAddress hfinish
  · cases h
  · obtain ⟨draft, hread, hfinish⟩ := Option.bind_eq_some_iff.1 h
    exact (isSound_of_readPieces (start _) hread).isAddress hfinish

/-! ### What is written -/

/-- A piece in hexadecimal. -/
def digits (n : Nat) : List Char := Nat.toDigits 16 n

theorem isSome_of_mem_digits {c : Char} (h : c ∈ digits n) : (Ipv4.digit? c).isSome = true := by
  obtain ⟨d, hd, rfl⟩ := Ipv4.exists_of_mem_toDigits (by decide) h
  rw [Ipv4.digit?_digitChar d hd]
  rfl

theorem digits_ne_nil (n : Nat) : digits n ≠ [] := Nat.toDigits_ne_nil

theorem digits_eq_cons (n : Nat) : ∃ c rest, digits n = c :: rest ∧ c ≠ ':' := by
  cases h : digits n with
  | nil => exact absurd h (digits_ne_nil n)
  | cons c rest =>
    refine ⟨c, rest, rfl, ?_⟩
    rintro rfl
    have hdigit := isSome_of_mem_digits (h ▸ List.mem_cons_self)
    exact absurd hdigit (by decide)

theorem ofDigits?_digits (n : Nat) : Ipv4.ofDigits? 16 (digits n) = some n :=
  Ipv4.ofDigits?_toDigits (by decide) (Nat.le_refl 16) n

theorem piece_append (hn : n < 65536) (rest : List Char)
    (hrest : ∀ c ∈ rest.head?, Ipv4.digit? c = none) :
    piece (digits n ++ rest) = (digits n, rest) := by
  have hlength : (digits n).length ≤ 4 :=
    (Nat.length_toDigits_le_iff (by decide) (by decide)).2 hn
  have passes : ∀ c ∈ digits n, (Ipv4.digit? c).isSome = true := fun c => isSome_of_mem_digits
  have stops : ∀ c ∈ (rest.take (4 - (digits n).length)).head?, (Ipv4.digit? c).isSome = false := by
    intro c hc
    rw [List.head?_take] at hc
    split at hc
    · cases hc
    · rw [hrest c hc]
      rfl
  have hdigits : ((digits n ++ rest).take 4).takeWhile (fun c => (Ipv4.digit? c).isSome) =
      digits n := by
    rw [List.take_append, List.take_of_length_le hlength]
    exact Text.takeWhile_append passes stops
  simp only [piece, hdigits, List.drop_left]

/-- A piece and the colon after it extend a draft by the piece. -/
theorem readPieces_piece (hn : n < 65536) (full : draft.size ≠ 8) {next : List Char}
    (more : next ≠ []) (count : Nat) :
    readPieces draft (count + 1) (digits n ++ ':' :: next) =
      readPieces { draft with pieces := draft.pieces ++ [n] } count next := by
  obtain ⟨c, rest, hdigits, hc⟩ := digits_eq_cons n
  have hpiece := piece_append hn (':' :: next) (by simp; decide)
  have hvalue := ofDigits?_digits n
  rw [hdigits] at hvalue
  rw [hdigits, List.cons_append] at hpiece ⊢
  rw [readPieces, if_neg full, if_neg hc]
  simp only [hpiece, if_neg more, hvalue]

/-- A last piece extends a draft by the piece. -/
theorem readPieces_last (hn : n < 65536) (full : draft.size ≠ 8) (count : Nat) :
    readPieces draft (count + 1) (digits n) =
      some { draft with pieces := draft.pieces ++ [n] } := by
  obtain ⟨c, rest, hdigits, hc⟩ := digits_eq_cons n
  have hpiece := piece_append hn [] nofun
  have hvalue := ofDigits?_digits n
  rw [List.append_nil] at hpiece
  rw [hdigits] at hpiece hvalue ⊢
  rw [readPieces, if_neg full, if_neg hc]
  simp only [hpiece, hvalue, Option.map_some]

theorem readPieces_gap {before : List Nat} (room : before.length ≠ 8) (count : Nat)
    (rest : List Char) :
    readPieces ⟨before, none⟩ (count + 1) (':' :: rest) =
      readPieces ⟨before, some before.length⟩ count rest := by
  have full : (⟨before, none⟩ : Draft).size ≠ 8 := room
  rw [readPieces, if_neg full, if_pos rfl]
  exact if_neg Bool.false_ne_true

/-- Pieces, each with the colon after it. -/
def closed (pieces : List Nat) : List Char := pieces.flatMap fun n => digits n ++ [':']

/-- Pieces with colons between them. -/
def chain (pieces : List Nat) : List Char := [':'].intercalate (pieces.map digits)

theorem toList_joined (pieces : List Nat) : (joined pieces).toList = chain pieces := by
  rw [joined, String.toList_intercalate, List.map_map, chain]
  congr 1
  exact List.map_congr_left fun n _ => String.toList_ofList

theorem chain_concat (pieces : List Nat) (n : Nat) :
    chain (pieces ++ [n]) = closed pieces ++ digits n := by
  induction pieces with
  | nil => simp [chain, closed, List.intercalate]
  | cons m pieces ih =>
    have hcons : chain (m :: (pieces ++ [n])) = digits m ++ ':' :: chain (pieces ++ [n]) := by
      obtain ⟨k, rest, hrest⟩ := List.exists_cons_of_ne_nil
        (List.append_ne_nil_of_right_ne_nil pieces (List.cons_ne_nil n []))
      rw [hrest]
      rfl
    rw [List.cons_append, hcons, ih, closed, closed, List.flatMap_cons]
    simp

/-- Pieces, each with the colon after it, extend a draft by these pieces. -/
theorem readPieces_closed {pieces : List Nat} (hlt : ∀ n ∈ pieces, n < 65536)
    (room : draft.size + pieces.length ≤ 8) {next : List Char} (more : next ≠ []) (count : Nat) :
    readPieces draft (count + pieces.length) (closed pieces ++ next) =
      readPieces { draft with pieces := draft.pieces ++ pieces } count next := by
  induction pieces generalizing draft with
  | nil => simp [closed]
  | cons n pieces ih =>
    have hsize := Draft.size_append draft [n]
    rw [List.length_cons] at room
    rw [List.length_singleton] at hsize
    have htext : closed (n :: pieces) ++ next = digits n ++ ':' :: (closed pieces ++ next) := by
      simp [closed]
    rw [htext, List.length_cons, ← Nat.add_assoc,
      readPieces_piece (hlt n List.mem_cons_self) (by omega)
        (List.append_ne_nil_of_right_ne_nil _ more),
      ih (fun m hm => hlt m (List.mem_cons_of_mem n hm)) (by omega)]
    simp

/-- Pieces with colons between them, up to the end of the text, extend a draft by these pieces. -/
theorem readPieces_chain {pieces : List Nat} (hlt : ∀ n ∈ pieces, n < 65536)
    (room : draft.size + pieces.length ≤ 8) {count : Nat} (enough : pieces.length ≤ count) :
    readPieces draft count (chain pieces) =
      some { draft with pieces := draft.pieces ++ pieces } := by
  obtain rfl | ⟨first, last, hconcat⟩ := List.eq_nil_or_concat pieces
  · simp [chain, readPieces]
  · rw [List.concat_eq_append] at hconcat
    subst hconcat
    have hlast := hlt last (by simp)
    have hsize := Draft.size_append draft first
    rw [List.length_append, List.length_singleton] at room enough
    obtain ⟨spare, rfl⟩ := Nat.exists_eq_add_of_le' enough
    rw [chain_concat, Nat.add_comm first.length, ← Nat.add_assoc,
      readPieces_closed (fun n hn => hlt n (List.mem_append_left _ hn)) (by omega)
        (digits_ne_nil last),
      readPieces_last hlast (by omega), List.append_assoc]

/-! ### Runs of zeros -/

theorem two_le_zerosAt {pieces : List Nat} {place : Nat} (h : longestRun? pieces = some place) :
    2 ≤ zerosAt pieces place := by
  suffices long : ∀ b ∈ longestRun? pieces, 2 ≤ zerosAt pieces b from long place h
  refine List.foldlRecOn _ _ (motive := fun best => ∀ b ∈ best, 2 ≤ zerosAt pieces b) nofun ?_
  intro best long next _ b hb
  cases best with
  | none =>
    simp only [Option.mem_def, Option.ite_none_right_eq_some, Option.some.injEq] at hb
    exact hb.2 ▸ hb.1
  | some earlier =>
    have hearlier := long earlier rfl
    simp only at hb
    split at hb
    · next longer =>
      cases hb
      omega
    · cases hb
      exact hearlier

/-- An address is what stands before a run of zeros, the run, and what follows it. -/
theorem eq_append_zeros (pieces : List Nat) (place : Nat) :
    pieces = pieces.take place ++ (List.replicate (zerosAt pieces place) 0 ++
      pieces.drop (place + zerosAt pieces place)) := by
  have hrun : (pieces.drop place).takeWhile (· = 0) = List.replicate (zerosAt pieces place) 0 :=
    List.eq_replicate_of_mem fun n hn =>
      of_decide_eq_true (List.all_eq_true.1 List.all_takeWhile n hn)
  have hsplit := List.takeWhile_append_dropWhile (p := (· = 0)) (l := pieces.drop place)
  have hrest : (pieces.drop place).dropWhile (· = 0) =
      pieces.drop (place + zerosAt pieces place) := by
    have hdrop : ((pieces.drop place).takeWhile (· = 0) ++
        (pieces.drop place).dropWhile (· = 0)).drop (zerosAt pieces place) =
      (pieces.drop place).dropWhile (· = 0) := List.drop_left
    rw [hsplit, List.drop_drop] at hdrop
    exact hdrop.symm
  rw [← hrest, ← hrun, hsplit, List.take_append_drop]

/-- The zeros that the longest run leaves out are put back. -/
theorem finish_gap {pieces : List Nat} {place : Nat} (h : IsAddress pieces)
    (hrun : 2 ≤ zerosAt pieces place) :
    let before := pieces.take place
    let after := pieces.drop (place + zerosAt pieces place)
    before.length + after.length ≤ 6 ∧
      Draft.finish ⟨before ++ after, some before.length⟩ = some pieces := by
  have hpieces := eq_append_zeros pieces place
  have hlength := congrArg List.length hpieces
  simp only [h.1, List.length_append, List.length_replicate] at hlength
  refine ⟨by omega, ?_⟩
  have hzeros : 8 - ((pieces.take place).length +
      (pieces.drop (place + zerosAt pieces place)).length) = zerosAt pieces place := by omega
  simp only [Draft.finish, List.take_left, List.drop_left, List.length_append, hzeros]
  rw [List.append_assoc, ← hpieces]

/-! ### Addresses -/

theorem chain_eq_cons {pieces : List Nat} (h : pieces ≠ []) :
    ∃ c rest, chain pieces = c :: rest ∧ c ≠ ':' := by
  cases pieces with
  | nil => exact absurd rfl h
  | cons n pieces =>
    obtain ⟨c, rest, hdigits, hc⟩ := digits_eq_cons n
    cases pieces with
    | nil => exact ⟨c, rest, by simp [chain, hdigits, List.intercalate], hc⟩
    | cons m pieces =>
      refine ⟨c, rest ++ ':' :: chain (m :: pieces), ?_, hc⟩
      rw [← List.cons_append, ← hdigits]
      rfl

theorem chain_append_colon {pieces : List Nat} (h : pieces ≠ []) (rest : List Char) :
    chain pieces ++ ':' :: rest = closed pieces ++ rest := by
  obtain rfl | ⟨first, last, hconcat⟩ := List.eq_nil_or_concat pieces
  · exact absurd rfl h
  · rw [hconcat, List.concat_eq_append, chain_concat, closed, closed]
    simp

theorem length_le_closed (pieces : List Nat) : pieces.length ≤ (closed pieces).length := by
  induction pieces with
  | nil => exact Nat.le_refl _
  | cons n pieces ih =>
    have hcons : closed (n :: pieces) = digits n ++ [':'] ++ closed pieces := rfl
    simp only [hcons, List.length_append, List.length_cons]
    omega

theorem length_le_chain (pieces : List Nat) : pieces.length ≤ (chain pieces).length := by
  obtain rfl | ⟨first, last, hconcat⟩ := List.eq_nil_or_concat pieces
  · exact Nat.le_refl _
  · have hfirst := length_le_closed first
    have hlast : 0 < (digits last).length := Nat.length_toDigits_pos
    rw [hconcat, List.concat_eq_append, chain_concat, List.length_append, List.length_append,
      List.length_singleton]
    omega

theorem mem_chain {pieces : List Nat} {c : Char} (h : c ∈ chain pieces) :
    c = ':' ∨ ∃ d < 16, c = Nat.digitChar d := by
  obtain hcolon | ⟨part, hpart, hc⟩ := Text.mem_intercalate h
  · exact .inl (List.mem_singleton.1 hcolon)
  · obtain ⟨n, -, rfl⟩ := List.mem_map.1 hpart
    exact .inr (Ipv4.exists_of_mem_toDigits (by decide) hc)

theorem parse?_of_head {c : Char} (hc : c ≠ ':') (rest : List Char) :
    parse? (c :: rest) =
      (readPieces ⟨[], none⟩ (c :: rest).length (c :: rest)).bind Draft.finish := by
  refine parse?.eq_3 _ ?_ ?_
  · rintro tail h
    exact hc (List.cons.inj h).1
  · rintro tail h
    exact hc (List.cons.inj h).1

/-- Pieces before and after two colons are read as what they are. -/
theorem parse?_gap {before after : List Nat} (hbefore : ∀ n ∈ before, n < 65536)
    (hafter : ∀ n ∈ after, n < 65536) (room : before.length + after.length ≤ 6) :
    parse? (chain before ++ ':' :: ':' :: chain after) =
      Draft.finish ⟨before ++ after, some before.length⟩ := by
  by_cases hnil : before = []
  · subst hnil
    have hread : readPieces ⟨[], some 0⟩ (chain after).length (chain after) =
        some ⟨[] ++ after, some 0⟩ := by
      refine readPieces_chain hafter ?_ (length_le_chain after)
      simp [Draft.size] at room ⊢
      omega
    have htext : chain [] ++ ':' :: ':' :: chain after = ':' :: ':' :: chain after := rfl
    rw [htext, parse?, hread, Option.bind_some]
    rfl
  · obtain ⟨c, rest, hhead, hc⟩ := chain_eq_cons hnil
    have htext := chain_append_colon hnil (':' :: chain after)
    have hlengthBefore := length_le_closed before
    have hlengthAfter := length_le_chain after
    obtain ⟨spare, hspare⟩ : ∃ spare, (closed before ++ ':' :: chain after).length =
        spare + after.length + 1 + before.length := by
      refine ⟨(closed before).length - before.length + ((chain after).length - after.length), ?_⟩
      rw [List.length_append, List.length_cons]
      omega
    rw [hhead, List.cons_append, parse?_of_head hc, ← List.cons_append, ← hhead, htext, hspare,
      readPieces_closed hbefore (by simp [Draft.size]; omega) (List.cons_ne_nil _ _),
      List.nil_append, readPieces_gap (by omega),
      readPieces_chain hafter (by simp [Draft.size]; omega) (Nat.le_add_left _ _),
      Option.bind_some]

theorem mem_write {pieces : List Nat} {c : Char} (h : c ∈ (write pieces).toList) :
    c = ':' ∨ ∃ d < 16, c = Nat.digitChar d := by
  rw [write] at h
  split at h
  · rw [toList_joined] at h
    exact mem_chain h
  · simp only [String.toList_append, toList_joined, List.mem_append] at h
    obtain (hbefore | hcolons) | hafter := h
    · exact mem_chain hbefore
    · left
      simpa using hcolons
    · exact mem_chain hafter

/-- An address is read back from what is written for it. -/
theorem parse?_write {pieces : List Nat} (h : IsAddress pieces) :
    parse? (write pieces).toList = some pieces := by
  rw [write]
  cases hrun : longestRun? pieces with
  | none =>
    have hne : pieces ≠ [] := by
      rintro rfl
      exact absurd h.1 (by decide)
    obtain ⟨c, rest, hhead, hc⟩ := chain_eq_cons hne
    have hlength := length_le_chain pieces
    simp only [toList_joined]
    rw [hhead, parse?_of_head hc, ← hhead,
      readPieces_chain h.2 (by simp [Draft.size, h.1]) hlength, Option.bind_some, List.nil_append]
    exact if_pos h.1
  | some place =>
    obtain ⟨room, hfinish⟩ := finish_gap h (two_le_zerosAt hrun)
    have hgap := parse?_gap (fun n hn => h.2 n (List.mem_of_mem_take hn))
      (fun n hn => h.2 n (List.mem_of_mem_drop hn)) room
    rw [hfinish] at hgap
    simpa [toList_joined] using hgap

end Beacon.Url.Ipv6
