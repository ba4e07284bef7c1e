/-!
# Cutting texts

What is cut off a text at the first character of a kind, and the parts of a text between all
characters of a kind: those that are collected from left to right are the parts that
`List.splitOnP` gives. Reading each part gives a list if all parts can be read
(`Text.mapM_eq_some_iff`).
-/

namespace Beacon.Text

variable {α : Type} {first rest : List α}

section Stop

variable {p : α → Bool} (passes : ∀ c ∈ first, p c = true) (stops : ∀ c ∈ rest.head?, p c = false)
include passes stops

theorem takeWhile_append : (first ++ rest).takeWhile p = first := by
  rw [List.takeWhile_append_of_pos passes]
  cases rest with
  | nil => rw [List.takeWhile_nil, List.append_nil]
  | cons c rest =>
    have hc := stops c rfl
    rw [List.takeWhile_cons_of_neg (by simp [hc]), List.append_nil]

theorem dropWhile_append : (first ++ rest).dropWhile p = rest := by
  rw [List.dropWhile_append_of_pos passes]
  cases rest with
  | nil => rfl
  | cons c rest =>
    have hc := stops c rfl
    rw [List.dropWhile_cons_of_neg (by simp [hc])]

end Stop

section Mark

variable [DecidableEq α] {mark : α} (absent : mark ∉ first)
include absent

theorem ne_of_absent : ∀ c ∈ first, decide (c ≠ mark) = true := fun _ hc =>
  decide_eq_true fun heq => absent (heq ▸ hc)

/-- A text without a mark, up to the mark. -/
theorem takeWhile_ne_mark (rest : List α) :
    (first ++ mark :: rest).takeWhile (· ≠ mark) = first :=
  takeWhile_append (ne_of_absent absent) (by simp)

theorem dropWhile_ne_mark (rest : List α) :
    (first ++ mark :: rest).dropWhile (· ≠ mark) = mark :: rest :=
  dropWhile_append (ne_of_absent absent) (by simp)

/-- A text without a mark as a whole. -/
theorem takeWhile_ne : first.takeWhile (· ≠ mark) = first := by
  have stops : ∀ c ∈ ([] : List α).head?, decide (c ≠ mark) = false := by simp
  have hwhole := takeWhile_append (ne_of_absent absent) stops
  rwa [List.append_nil] at hwhole

theorem dropWhile_ne : first.dropWhile (· ≠ mark) = [] := by
  have stops : ∀ c ∈ ([] : List α).head?, decide (c ≠ mark) = false := by simp
  have hwhole := dropWhile_append (ne_of_absent absent) stops
  rwa [List.append_nil] at hwhole

end Mark

/-- Put a character to the part under way, or end the part; the last character and the last part
come first. -/
def partStep (p : α → Prop) [DecidablePred p] (parts : List α × List (List α)) (c : α) :
    List α × List (List α) :=
  if p c then ([], parts.1.reverse :: parts.2) else (c :: parts.1, parts.2)

theorem foldl_partStep (p : α → Prop) [DecidablePred p] (text : List α)
    (parts : List α × List (List α)) :
    ((text.foldl (partStep p) parts).1.reverse :: (text.foldl (partStep p) parts).2).reverse =
      parts.2.reverse ++ text.splitOnPPrepend p parts.1 := by
  induction text generalizing parts with
  | nil => simp
  | cons c text ih =>
    rw [List.foldl_cons, ih, partStep]
    by_cases hc : p c
    · rw [if_pos hc, List.splitOnPPrepend_cons_pos (by simpa using hc), List.reverse_cons,
        List.append_assoc]
      rfl
    · rw [if_neg hc, List.splitOnPPrepend_cons_neg (by simpa using hc)]

theorem of_mem_splitOnPPrepend {p : α → Bool} {text done part : List α} {c : α}
    (hdone : ∀ d ∈ done, p d = false) (hpart : part ∈ text.splitOnPPrepend p done)
    (hc : c ∈ part) : (c ∈ done ∨ c ∈ text) ∧ p c = false := by
  induction text generalizing done with
  | nil =>
    rw [List.splitOnPPrepend_nil, List.mem_singleton] at hpart
    have hmem := List.mem_reverse.1 (hpart ▸ hc)
    exact ⟨.inl hmem, hdone c hmem⟩
  | cons d text ih =>
    by_cases hd : p d = true
    · rw [List.splitOnPPrepend_cons_pos hd, List.mem_cons] at hpart
      obtain rfl | hpart := hpart
      · have hmem := List.mem_reverse.1 hc
        exact ⟨.inl hmem, hdone c hmem⟩
      · rw [← List.splitOnPPrepend_nil_right] at hpart
        obtain ⟨hmem, hnot⟩ := ih (fun _ hnil => absurd hnil List.not_mem_nil) hpart
        exact ⟨.inr (List.mem_cons_of_mem d (hmem.resolve_left List.not_mem_nil)), hnot⟩
    · rw [Bool.not_eq_true] at hd
      rw [List.splitOnPPrepend_cons_neg hd] at hpart
      obtain ⟨hmem, hnot⟩ := ih (List.forall_mem_cons.2 ⟨hd, hdone⟩) hpart
      rw [List.mem_cons, or_assoc, or_left_comm, ← List.mem_cons] at hmem
      exact ⟨hmem, hnot⟩

/-- The parts of a text hold what it holds, but none of the characters that it is cut at. -/
theorem of_mem_splitOnP {p : α → Bool} {text part : List α} {c : α}
    (hpart : part ∈ text.splitOnP p) (hc : c ∈ part) : c ∈ text ∧ p c = false := by
  rw [← List.splitOnPPrepend_nil_right] at hpart
  obtain ⟨hmem, hnot⟩ :=
    of_mem_splitOnPPrepend (fun _ hnil => absurd hnil List.not_mem_nil) hpart hc
  exact ⟨hmem.resolve_left List.not_mem_nil, hnot⟩

/-- A text that is put together from parts holds what they hold and what is between them. -/
theorem mem_intercalate {between : List α} {parts : List (List α)} {c : α}
    (h : c ∈ between.intercalate parts) : c ∈ between ∨ ∃ part ∈ parts, c ∈ part := by
  induction parts with
  | nil => cases h
  | cons part parts ih =>
    cases parts with
    | nil =>
      rw [List.intercalate_singleton] at h
      exact .inr ⟨part, List.mem_cons_self, h⟩
    | cons next parts =>
      rw [List.intercalate_cons_cons, List.mem_append, List.mem_append] at h
      obtain (hpart | hbetween) | hrest := h
      · exact .inr ⟨part, List.mem_cons_self, hpart⟩
      · exact .inl hbetween
      · refine (ih hrest).imp_right ?_
        rintro ⟨other, hother, hc⟩
        exact ⟨other, List.mem_cons_of_mem part hother, hc⟩

/-- Reading each of several parts gives what is read from each of them. -/
theorem mapM_eq_some_iff {β : Type} {read? : α → Option β} {parts : List α} {values : List β} :
    parts.mapM read? = some values ↔ parts.map read? = values.map some := by
  induction parts generalizing values with
  | nil => cases values <;> simp
  | cons part parts ih =>
    cases values with
    | nil => simp [Option.bind_eq_some_iff]
    | cons value values =>
      simp only [List.mapM_cons, bind, pure, Option.bind_eq_some_iff, Option.some.injEq,
        List.cons.injEq, List.map_cons, ← ih]
      constructor
      · rintro ⟨_, hvalue, _, hvalues, rfl, rfl⟩
        exact ⟨hvalue, hvalues⟩
      · rintro ⟨hvalue, hvalues⟩
        exact ⟨value, hvalue, values, hvalues, rfl, rfl⟩

end Beacon.Text
