import Beacon.Proofs.Text.Cut
import Beacon.Proofs.Url.Percent

/-!
# Paths read back

The segments of a path that is read are encoded and are no dots (`Url.IsSegment`), and such segments
are read back from the text that puts a slash before each of them (`Url.parsePath_slashed`).
-/

namespace Beacon.Url

/-! ### Segments -/

/-- A segment as reading gives it. -/
structure IsSegment (text : List Char) : Prop where
  /-- It holds only what a path may hold. -/
  kept : ∀ c ∈ text, IsKept pathSet c
  /-- It is not cut. -/
  whole : ∀ c ∈ text, isSlash c = false
  /-- It does not stand for the segment it is in. -/
  ne_dot : plainDots text ≠ ['.']
  /-- It does not stand for the segment before it. -/
  ne_dots : plainDots text ≠ ['.', '.']

theorem isSegment_nil : IsSegment [] :=
  ⟨nofun, nofun, by decide, by decide⟩

theorem kept_of_mem_escapes {c : Char} (h : c ∈ escapes) : IsKept pathSet c :=
  isKept_of_mem_escapes pathSet (by decide) c h

theorem isSlash_of_mem_escapes {c : Char} (h : c ∈ escapes) : isSlash c = false := by
  have all : escapes.all (fun c => !isSlash c) = true := by decide
  simpa using List.all_eq_true.1 all c h

/-- A text without percent signs that is encoded comes from itself alone. -/
theorem eq_of_percentEncode {text plain : List Char} (h : percentEncode pathSet text = plain)
    (hplain : '%' ∉ plain) : text = plain := by
  induction plain generalizing text with
  | nil =>
    cases text with
    | nil => rfl
    | cons c text =>
      rw [percentEncode_cons, List.append_eq_nil_iff] at h
      exact absurd h.1 (percentChar_ne_nil c)
  | cons d plain ih =>
    rw [List.mem_cons, not_or] at hplain
    obtain ⟨tail, rfl, htail⟩ := eq_cons_of_percentEncode (Ne.symm hplain.1) h
    rw [ih htail hplain.2]

/-- A segment that is no dots is encoded as one. -/
theorem isSegment_percentEncode {segment : List Char} (whole : ∀ c ∈ segment, isSlash c = false)
    (dot : plainDots segment ≠ ['.']) (dots : plainDots segment ≠ ['.', '.']) :
    IsSegment (percentEncode pathSet segment) where
  kept c hc := isKept_of_mem_percentEncode (fun _ => kept_of_mem_escapes) hc
  whole c hc := (mem_percentEncode hc).elim (fun h => whole c h.1) isSlash_of_mem_escapes
  ne_dot h := dot (eq_of_percentEncode (plainDots_percentEncode segment ▸ h) (by decide))
  ne_dots h := dots (eq_of_percentEncode (plainDots_percentEncode segment ▸ h) (by decide))

/-! ### Resolution -/

theorem isSegment_of_parent {done : List String} (hdone : ∀ s ∈ done, IsSegment s.toList) :
    ∀ s ∈ parent done, IsSegment s.toList := by
  cases done with
  | nil => exact hdone
  | cons segment rest =>
    rw [parent]
    split
    · exact hdone
    · exact fun s hs => hdone s (List.mem_cons_of_mem segment hs)

/-- What is resolved are segments. -/
theorem isSegment_of_mem_resolve {done : List String} {texts : List (List Char)}
    (hdone : ∀ s ∈ done, IsSegment s.toList)
    (whole : ∀ text ∈ texts, ∀ c ∈ text, isSlash c = false) :
    ∀ s ∈ resolve done texts, IsSegment s.toList := by
  -- an empty segment may come at the end
  have put {done : List String} (b : Bool) (hdone : ∀ s ∈ done, IsSegment s.toList) :
      ∀ s ∈ (if b then "" :: done else done), IsSegment s.toList := by
    cases b with
    | false => exact hdone
    | true => exact List.forall_mem_cons.2 ⟨isSegment_nil, hdone⟩
  induction texts generalizing done with
  | nil => exact fun s hs => hdone s (List.mem_reverse.1 hs)
  | cons text rest ih =>
    have hrest := fun t ht => whole t (List.mem_cons_of_mem text ht)
    rw [resolve]
    split
    · exact ih (put _ (isSegment_of_parent hdone)) hrest
    · split
      · exact ih (put _ hdone) hrest
      · next dots dot =>
        refine ih (List.forall_mem_cons.2 ⟨?_, hdone⟩) hrest
        rw [String.toList_ofList]
        exact isSegment_percentEncode (whole text List.mem_cons_self) dot dots

theorem resolve_ne_nil (done : List String) {texts : List (List Char)}
    (h : texts ≠ [] ∨ done ≠ []) : resolve done texts ≠ [] := by
  induction texts generalizing done with
  | nil =>
    rw [resolve]
    exact mt List.reverse_eq_nil_iff.1 (h.resolve_left fun hnil => hnil rfl)
  | cons text rest ih =>
    have put (done : List String) :
        rest ≠ [] ∨ (if rest.isEmpty then "" :: done else done) ≠ [] := by
      cases rest with
      | nil => exact .inr (List.cons_ne_nil _ _)
      | cons t rest => exact .inl (List.cons_ne_nil _ _)
    rw [resolve]
    split
    · exact ih _ (put _)
    · split
      · exact ih _ (put _)
      · exact ih _ (.inr (List.cons_ne_nil _ _))

/-- Segments are resolved to themselves. -/
theorem resolve_of_isSegment (done : List String) {texts : List (List Char)}
    (h : ∀ text ∈ texts, IsSegment text) :
    resolve done texts = done.reverse ++ texts.map String.ofList := by
  induction texts generalizing done with
  | nil => exact (List.append_nil _).symm
  | cons text rest ih =>
    have htext := h text List.mem_cons_self
    rw [resolve, if_neg htext.ne_dots, if_neg htext.ne_dot, percentEncode_of_isKept htext.kept,
      ih _ fun t ht => h t (List.mem_cons_of_mem text ht)]
    simp

/-! ### Paths -/

/-- Segments, each with a slash before it. -/
def slashed (texts : List (List Char)) : List Char := texts.flatMap ('/' :: ·)

theorem slashed_append (texts more : List (List Char)) :
    slashed (texts ++ more) = slashed texts ++ slashed more := List.flatMap_append

theorem slashed_eq_cons {texts : List (List Char)} (h : texts ≠ []) :
    slashed texts = '/' :: ['/'].intercalate texts := by
  induction texts with
  | nil => exact absurd rfl h
  | cons text texts ih =>
    cases texts with
    | nil => simp [slashed]
    | cons next texts =>
      have hcons : slashed (text :: next :: texts) = '/' :: (text ++ slashed (next :: texts)) := rfl
      rw [hcons, ih (List.cons_ne_nil next texts), List.intercalate_cons_cons, List.append_assoc,
        List.singleton_append]

theorem segments_eq (text : List Char) : segments text = text.splitOnP isSlash :=
  (Text.foldl_partStep (fun c => isSlash c = true) text ([], [])).trans (by simp)

theorem segments_slashed {text : List Char} {texts : List (List Char)}
    (h : ∀ t ∈ text :: texts, ∀ c ∈ t, isSlash c = false) :
    segments (text ++ slashed texts) = text :: texts := by
  rw [segments_eq]
  induction texts generalizing text with
  | nil =>
    rw [slashed, List.flatMap_nil, List.append_nil]
    exact List.splitOnP_eq_singleton (h text List.mem_cons_self)
  | cons next texts ih =>
    have hslash : isSlash '/' = true := by decide
    have hcons : slashed (next :: texts) = '/' :: (next ++ slashed texts) := rfl
    rw [hcons, List.splitOnP_append_cons_of_forall_mem (h text List.mem_cons_self) '/' hslash,
      ih fun t ht => h t (List.mem_cons_of_mem text ht)]

/-- Segments are read back from the text of a path. -/
theorem parsePath_slashed {texts : List (List Char)} (hne : texts ≠ [])
    (h : ∀ text ∈ texts, IsSegment text) : parsePath (slashed texts) = texts.map String.ofList := by
  cases texts with
  | nil => exact absurd rfl hne
  | cons text texts =>
    have hcons : slashed (text :: texts) = '/' :: (text ++ slashed texts) := rfl
    rw [hcons, parsePath, if_pos (by decide), segments_slashed fun t ht => (h t ht).whole,
      resolve_of_isSegment [] h]
    rfl

/-- A path that is read has segments, at least one. -/
theorem parsePath_facts (text : List Char) :
    parsePath text ≠ [] ∧ ∀ s ∈ parsePath text, IsSegment s.toList := by
  cases text with
  | nil => exact ⟨by decide, fun s hs => List.mem_singleton.1 hs ▸ isSegment_nil⟩
  | cons c rest =>
    rw [parsePath, segments_eq]
    exact ⟨resolve_ne_nil [] (.inl (List.splitOnP_ne_nil _ _)),
      isSegment_of_mem_resolve nofun fun t ht c hc => (Text.of_mem_splitOnP ht hc).2⟩

end Beacon.Url
