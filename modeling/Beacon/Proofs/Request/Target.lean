import Beacon.Endpoint
import Beacon.Proofs.Request.Path
import Beacon.Proofs.Url.Normal
import Mathlib.Data.List.DropRight

/-!
# Targets of requests

The text that a request is sent to is the normal form of an address (`Request.urlFor_eq_write`),
so it is read as this address: the path of the request comes after the path of the node, unless the
address of the node has a query or a fragment. Then it comes after these, and the path stays that of
the node (`Endpoint.reaches_iff`).
-/

namespace Beacon

/-! ### Slashes at the end -/

namespace Endpoint

theorem toList_dropSlashes (text : String) :
    (dropSlashes text).toList = text.toList.rdropWhile (· = '/') := String.toList_ofList

/-- Slashes are left out up to a character that is none. -/
theorem rdropWhile_append {front : List Char} {c : Char} (hc : c ≠ '/') (back : List Char) :
    (front ++ c :: back).rdropWhile (· = '/') = front ++ c :: back.rdropWhile (· = '/') := by
  induction back using List.reverseRecOn with
  | nil => rw [List.rdropWhile_concat_neg _ _ _ (by simpa using hc), List.rdropWhile_nil]
  | append_singleton back d ih =>
    rw [List.append_cons, ← List.append_assoc, List.rdropWhile_concat, List.rdropWhile_concat,
      ← List.append_cons, ih]
    split <;> simp

/-- A path without the empty segments at its end. -/
def trimmed (path : List String) : List String := path.rdropWhile (· = "")

theorem rdropWhile_slashed {path : List String} (h : ∀ s ∈ path, Url.IsSegment s.toList) :
    (Url.slashed (path.map String.toList)).rdropWhile (· = '/') =
      Url.slashed ((trimmed path).map String.toList) := by
  induction path using List.reverseRecOn with
  | nil => rfl
  | append_singleton path s ih =>
    have hconcat : Url.slashed ((path ++ [s]).map String.toList) =
        Url.slashed (path.map String.toList) ++ '/' :: s.toList := by
      simp [Url.slashed]
    rw [trimmed, List.rdropWhile_concat, hconcat]
    split
    · next hs =>
      rw [of_decide_eq_true hs, String.toList_empty, List.rdropWhile_concat_pos _ _ _ (by simp)]
      exact ih fun t ht => h t (List.mem_append_left _ ht)
    · next hs =>
      have hne : s.toList ≠ [] := by simpa using hs
      obtain ⟨front, c, hlast⟩ := List.eq_nil_or_concat s.toList |>.resolve_left hne
      rw [List.concat_eq_append] at hlast
      have hc : c ≠ '/' := by
        rintro rfl
        have hwhole := (h s (by simp)).whole '/' (by simp [hlast])
        exact absurd hwhole (by decide)
      rw [hconcat, hlast, List.append_cons, ← List.append_assoc]
      exact List.rdropWhile_concat_neg _ _ _ (by simpa using hc)

end Endpoint

/-! ### Characters of requests -/

namespace Request

variable {request : Request}

/-- A character of a word in a path. -/
def isWord (c : Char) : Bool := c.isAlphanum || c = '_'

/-- A character of a path with a query. -/
def isTarget (c : Char) : Bool := isWord c || ['/', '?', '=', '&'].contains c

/-- A request whose block or state is named by letters and digits. -/
def IsAlphanumeric (request : Request) : Prop :=
  ∀ id ∈ request.id?, ∀ c ∈ id.toList, c.isAlphanum = true

theorem isTarget_range {c : Char} (h : isTarget c = true) : 0x20 ≤ c.toNat ∧ c.toNat < 0x7F := by
  have between (low high : Char) (hlow : low ≤ c) (hhigh : c ≤ high) (hl : 0x20 ≤ low.toNat)
      (hh : high.toNat < 0x7F) : 0x20 ≤ c.toNat ∧ c.toNat < 0x7F :=
    ⟨Nat.le_trans hl hlow, Nat.lt_of_le_of_lt hhigh hh⟩
  rw [isTarget, isWord, Bool.or_eq_true, Bool.or_eq_true] at h
  obtain (halphanum | hscore) | hmark := h
  · have hkinds : ((c.isUpper || c.isLower) || c.isDigit) = true := halphanum
    rw [Bool.or_eq_true, Bool.or_eq_true] at hkinds
    obtain (hupper | hlower) | hdigit := hkinds
    · obtain ⟨hlow, hhigh⟩ := of_decide_eq_true hupper
      exact between 'A' 'Z' hlow hhigh (by decide) (by decide)
    · obtain ⟨hlow, hhigh⟩ := Bool.and_eq_true_iff.1 hlower
      exact between 'a' 'z' (of_decide_eq_true hlow) (of_decide_eq_true hhigh) (by decide)
        (by decide)
    · obtain ⟨hlow, hhigh⟩ := Bool.and_eq_true_iff.1 hdigit
      exact between '0' '9' (of_decide_eq_true hlow) (of_decide_eq_true hhigh) (by decide)
        (by decide)
  · rw [of_decide_eq_true hscore]
    decide
  · simp only [List.contains_eq_mem, List.mem_cons, List.not_mem_nil, or_false,
      decide_eq_true_eq] at hmark
    obtain rfl | rfl | rfl | rfl := hmark <;> decide

/-- A part may hold the characters of a kind if none of that kind is one that it may not hold. -/
theorem isKept_of_all {p : Char → Bool} {set : List Char} {c : Char} (target : isTarget c = true)
    (hc : p c = true) (hset : set.all (fun d => !p d) = true) : Url.IsKept set c := by
  obtain ⟨hlow, hhigh⟩ := isTarget_range target
  refine ⟨hlow, hhigh, fun hmem => ?_⟩
  have hnot := List.all_eq_true.1 hset c hmem
  rw [hc] at hnot
  cases hnot

theorem isTarget_of_isWord {c : Char} (h : isWord c = true) : isTarget c = true := by
  rw [isTarget, h, Bool.true_or]

theorem stem_tail_words : Capability.all.all (fun k =>
    (k.stem.toList ++ k.tail.toList).all fun c => isWord c || c = '/') = true := by
  decide

theorem isWord_of_mem_write {n : UInt64} {c : Char} (h : c ∈ (Numeral.write n).toList) :
    isWord c = true := by
  rw [isWord, Char.isAlphanum, isDigit_of_mem_write h, Bool.or_true, Bool.true_or]

theorem IsAlphanumeric.isWord_of_mem_subject (alphanumeric : request.IsAlphanumeric) :
    ∀ c ∈ request.subject.toList, isWord c = true := by
  have word {id : String} (hid : id ∈ request.id?) : ∀ c ∈ id.toList, isWord c = true := by
    intro c hc
    rw [isWord, alphanumeric id hid c hc, Bool.true_or]
  cases request with
  | genesis | nodeVersion => nofun
  | validatorLiveness epoch indices => exact fun c => isWord_of_mem_write
  | blockHeader id | blockRoot id | stateRoot id | finalityCheckpoints id | state id
    | blobSidecars id indices => exact word rfl

theorem IsAlphanumeric.mem_route (alphanumeric : request.IsAlphanumeric) :
    ∀ c ∈ request.route.toList, isWord c = true ∨ c = '/' := by
  intro c hc
  have words := List.all_eq_true.1 stem_tail_words _ (Capability.mem_all request.capability)
  have hparts (hmem : c ∈ request.capability.stem.toList ++ request.capability.tail.toList) :
      isWord c = true ∨ c = '/' := by
    simpa using List.all_eq_true.1 words c hmem
  simp only [route, String.toList_append, List.mem_append] at hc
  obtain (hstem | hsubject) | htail := hc
  · exact hparts (List.mem_append_left _ hstem)
  · exact .inl (alphanumeric.isWord_of_mem_subject c hsubject)
  · exact hparts (List.mem_append_right _ htail)

theorem isTarget_of_mem_query {query : String} (h : query ∈ request.query?) :
    ∀ c ∈ query.toList, isTarget c = true := by
  intro c hc
  unfold query? at h
  split at h
  · cases h
  · cases h
    rw [String.toList_intercalate] at hc
    obtain hmark | ⟨part, hpart, hc⟩ := Text.mem_intercalate hc
    · rw [List.mem_singleton.1 hmark]
      decide
    · simp only [List.map_map, List.mem_map, Function.comp_apply] at hpart
      obtain ⟨index, -, rfl⟩ := hpart
      rw [String.toList_append, List.mem_append] at hc
      obtain hname | hindex := hc
      · have all : "indices=".toList.all isTarget = true := by decide
        exact List.all_eq_true.1 all c hname
      · exact isTarget_of_isWord (isWord_of_mem_write hindex)
  · cases h

theorem IsAlphanumeric.isTarget_of_mem_path (alphanumeric : request.IsAlphanumeric) :
    ∀ c ∈ request.path.toList, isTarget c = true := by
  intro c hc
  rw [path_eq, String.toList_append, List.mem_append] at hc
  obtain hroute | hquery := hc
  · obtain hword | rfl := alphanumeric.mem_route c hroute
    · exact isTarget_of_isWord hword
    · decide
  · split at hquery
    · next query hsome =>
      rw [String.toList_append, List.mem_append] at hquery
      obtain hmark | hquery := hquery
      · rw [List.mem_singleton.1 hmark]
        decide
      · exact isTarget_of_mem_query hsome c hquery
    · cases hquery

theorem IsAlphanumeric.isPlain (alphanumeric : request.IsAlphanumeric) : request.IsPlain :=
  fun id hid hmark => absurd (alphanumeric id hid '?' hmark) (by decide)

/-! ### Segments of requests -/

/-- The segments of the path of a request. -/
def segments (request : Request) : List String :=
  (request.route.toList.tail.splitOn '/').map String.ofList

theorem stem_start : ∀ k ∈ Capability.all, "/e".toList <+: k.stem.toList := by
  decide

theorem exists_route (request : Request) : ∃ rest, request.route.toList = '/' :: 'e' :: rest := by
  obtain ⟨rest, hstem⟩ := stem_start request.capability (Capability.mem_all _)
  rw [route, String.toList_append, String.toList_append, ← hstem]
  exact ⟨_, rfl⟩

/-- The path of a request puts a slash before each of its segments. -/
theorem slashed_segments (request : Request) :
    Url.slashed (request.segments.map String.toList) = request.route.toList := by
  obtain ⟨rest, hroute⟩ := exists_route request
  have htexts : request.segments.map String.toList = ('e' :: rest).splitOn '/' := by
    rw [segments, hroute, List.map_map]
    exact (List.map_congr_left fun _ _ => String.toList_ofList).trans (List.map_id _)
  have hne : ('e' :: rest).splitOn '/' ≠ [] := List.splitOnP_ne_nil _ _
  rw [htexts, hroute, Url.slashed_eq_cons hne, List.intercalate_splitOn]

theorem isSegment_of_isWord {text : List Char} (h : ∀ c ∈ text, isWord c = true) :
    Url.IsSegment text := by
  have hdots : Url.plainDots text = text :=
    Url.plainDots_of_not_mem fun hmark => absurd (h '%' hmark) (by decide)
  have hplain : '.' ∉ text := fun hdot => absurd (h '.' hdot) (by decide)
  refine ⟨fun c hc => ?_, fun c hc => ?_, ?_, ?_⟩
  · exact isKept_of_all (isTarget_of_isWord (h c hc)) (h c hc) (by decide)
  · rw [Url.isSlash, Bool.or_eq_false_iff]
    refine ⟨decide_eq_false ?_, decide_eq_false ?_⟩ <;>
      (rintro rfl; exact absurd (h _ hc) (by decide))
  · rw [hdots]
    rintro rfl
    exact hplain List.mem_cons_self
  · rw [hdots]
    rintro rfl
    exact hplain List.mem_cons_self

theorem IsAlphanumeric.isSegment (alphanumeric : request.IsAlphanumeric) :
    ∀ s ∈ request.segments, Url.IsSegment s.toList := by
  intro s hs
  obtain ⟨text, htext, rfl⟩ := List.mem_map.1 hs
  rw [String.toList_ofList]
  refine isSegment_of_isWord fun c hc => ?_
  obtain ⟨hmem, hslash⟩ := Text.of_mem_splitOnP htext hc
  obtain hword | rfl := alphanumeric.mem_route c (List.mem_of_mem_tail hmem)
  · exact hword
  · cases hslash

/-! ### Where a request goes -/

/-- The address that a request to the node at an address is sent to: what the request asks for comes
after the path, or after the fragment or the query if there is one. -/
def target (base : Url) (request : Request) : Url :=
  match base.fragment, base.query with
  | some fragment, _ =>
    { base with fragment := some (Endpoint.dropSlashes fragment ++ request.path) }
  | none, some query => { base with query := some (Endpoint.dropSlashes query ++ request.path) }
  | none, none =>
    { base with path := Endpoint.trimmed base.path ++ request.segments, query := request.query? }

variable {base : Url}

theorem target_of_fragment {fragment : String} (h : base.fragment = some fragment) :
    target base request =
      { base with fragment := some (Endpoint.dropSlashes fragment ++ request.path) } := by
  rw [target, h]

theorem target_of_query {query : String} (hfragment : base.fragment = none)
    (h : base.query = some query) :
    target base request =
      { base with query := some (Endpoint.dropSlashes query ++ request.path) } := by
  rw [target, hfragment, h]

theorem target_of_none (hfragment : base.fragment = none) (hquery : base.query = none) :
    target base request =
      { base with
        path := Endpoint.trimmed base.path ++ request.segments, query := request.query? } := by
  rw [target, hfragment, hquery]

theorem kept_after {set : List Char} (alphanumeric : request.IsAlphanumeric)
    (hset : set.all (fun d => !isTarget d) = true) {part : String}
    (hpart : ∀ c ∈ part.toList, Url.IsKept set c) :
    ∀ c ∈ (Endpoint.dropSlashes part ++ request.path).toList, Url.IsKept set c := by
  intro c hc
  rw [String.toList_append, Endpoint.toList_dropSlashes, List.mem_append] at hc
  obtain hc | hc := hc
  · exact hpart c ((List.rdropWhile_prefix _ _).subset hc)
  · have htarget := alphanumeric.isTarget_of_mem_path c hc
    exact isKept_of_all htarget htarget hset

theorem isNormal_target (normal : base.IsNormal) (alphanumeric : request.IsAlphanumeric) :
    (target base request).IsNormal := by
  cases hfragment : base.fragment with
  | some fragment =>
    rw [target_of_fragment hfragment]
    refine { normal with fragment := ?_ }
    rintro _ ⟨⟩
    exact kept_after alphanumeric (by decide) (normal.fragment fragment hfragment)
  | none =>
    cases hquery : base.query with
    | some query =>
      rw [target_of_query hfragment hquery]
      refine { normal with query := ?_ }
      rintro _ ⟨⟩
      exact kept_after alphanumeric (by decide) (normal.query query hquery)
    | none =>
      have hne : request.segments ≠ [] := mt List.map_eq_nil_iff.1 (List.splitOnP_ne_nil _ _)
      rw [target_of_none hfragment hquery]
      refine { normal with
        path_ne_nil := List.append_ne_nil_of_right_ne_nil _ hne
        path := List.forall_mem_append.2 ⟨fun s hs => ?_, alphanumeric.isSegment⟩
        query := fun query hquery c hc => ?_ }
      · exact normal.path s ((List.rdropWhile_prefix _ _).subset hs)
      · have htarget := isTarget_of_mem_query hquery c hc
        exact isKept_of_all htarget htarget (by decide)

theorem front_target (base : Url) (request : Request) :
    (target base request).front = base.front := by
  unfold target
  split <;> rfl

/-- No slash comes right before the path. -/
theorem rdropWhile_front (normal : base.IsNormal) (back : List Char) :
    (base.front ++ back).rdropWhile (· = '/') = base.front ++ back.rdropWhile (· = '/') := by
  obtain ⟨place, c, hlast⟩ :=
    (List.eq_nil_or_concat base.authority.toList).resolve_left (Url.authority_ne_nil normal)
  rw [List.concat_eq_append] at hlast
  have hc : c ≠ '/' := by
    rintro rfl
    have hplace := Url.isPlace_of_mem_authority normal (c := '/') (by simp [hlast])
    exact absurd hplace (by decide)
  have hfront : base.front = base.scheme.name.toList ++ ':' :: '/' :: '/' ::
      (base.credentials.toList ++ place) ++ [c] := by
    simp [Url.front, hlast]
  rw [hfront, ← List.append_cons, ← List.append_cons, Endpoint.rdropWhile_append hc]

theorem slashed_texts_target (normal : base.IsNormal) (hfragment : base.fragment = none)
    (hquery : base.query = none) :
    Url.slashed (target base request).texts =
      (Url.slashed base.texts).rdropWhile (· = '/') ++ request.route.toList := by
  rw [target_of_none hfragment hquery, Url.texts, List.map_append, Url.slashed_append,
    slashed_segments, Url.texts, Endpoint.rdropWhile_slashed normal.path]

/-- The text that a request is sent to is the normal form of an address. -/
theorem urlFor_eq_write {endpoint : Endpoint} (normal : endpoint.address.IsNormal)
    (request : Request) :
    endpoint.urlFor request.path = (target endpoint.address request).write := by
  rw [← String.toList_inj, Endpoint.urlFor, String.toList_append, Endpoint.toList_dropSlashes,
    Url.toList_write, Url.toList_write, front_target, rdropWhile_front normal, List.append_assoc]
  congr 1
  generalize endpoint.address = base at *
  cases hfragment : base.fragment with
  | some fragment =>
    rw [target_of_fragment hfragment]
    simp only [Url.fragmentText, hfragment, String.toList_append, Endpoint.toList_dropSlashes]
    rw [← List.append_assoc, Endpoint.rdropWhile_append (by decide), List.append_assoc,
      List.append_assoc]
    rfl
  | none =>
    cases hquery : base.query with
    | some query =>
      rw [target_of_query hfragment hquery]
      simp only [Url.fragmentText, Url.queryText, hfragment, hquery, String.toList_append,
        Endpoint.toList_dropSlashes, List.append_nil]
      rw [Endpoint.rdropWhile_append (by decide), List.append_assoc]
      rfl
    | none =>
      rw [slashed_texts_target normal hfragment hquery, target_of_none hfragment hquery]
      simp only [Url.fragmentText, Url.queryText, hfragment, hquery, List.append_nil, path_eq,
        String.toList_append, List.append_assoc]
      cases request.query? <;> simp

/-! ### What is reached -/

end Request

namespace Url

/-- Addresses of one node, reached under one name. -/
structure IsAlongside (url base : Url) : Prop where
  scheme : url.scheme = base.scheme
  username : url.username = base.username
  password : url.password = base.password
  host : url.host = base.host
  port : url.port = base.port

/-- An address below another one: its path goes on where the other one ends, slashes at the end
apart, and its query is that of the path asked for. -/
def Reaches (url base : Url) (path : String) : Prop :=
  url.pathText = Endpoint.dropSlashes base.pathText ++ Request.pathPart path ∧
    url.query = Request.queryPart path

end Url

namespace Request

variable {request : Request} {base : Url}

theorem isAlongside_target (base : Url) (request : Request) :
    (target base request).IsAlongside base := by
  unfold target
  split <;> exact ⟨rfl, rfl, rfl, rfl, rfl⟩

theorem path_target (h : ¬(base.query = none ∧ base.fragment = none)) :
    (target base request).path = base.path := by
  unfold target
  split
  · rfl
  · rfl
  · next hfragment hquery => exact absurd ⟨hquery, hfragment⟩ h

/-- The path of a node is not the path of a request to it. -/
theorem pathText_ne (text : String) (request : Request) :
    text ≠ Endpoint.dropSlashes text ++ request.route := by
  intro h
  obtain ⟨rest, hroute⟩ := exists_route request
  have hsplit := List.rdropWhile_append_rtakeWhile (p := (· = '/')) (l := text.toList)
  rw [← String.toList_inj, String.toList_append, Endpoint.toList_dropSlashes] at h
  -- what is left out of the text are slashes, and there are other characters in the path
  have hslashes : text.toList.rtakeWhile (· = '/') = request.route.toList :=
    List.append_cancel_left (hsplit.trans h)
  have hletter : 'e' ∈ text.toList.rtakeWhile (· = '/') := by
    rw [hslashes, hroute]
    exact List.mem_cons_of_mem _ List.mem_cons_self
  exact absurd (List.mem_rtakeWhile_imp hletter) (by decide)

theorem reaches_target_iff (normal : base.IsNormal) (alphanumeric : request.IsAlphanumeric) :
    (target base request).Reaches base request.path ↔ base.query = none ∧ base.fragment = none := by
  rw [Url.Reaches, alphanumeric.isPlain.pathPart_path, alphanumeric.isPlain.queryPart_path]
  constructor
  · intro hreaches
    by_contra hnone
    have hpath : (target base request).pathText = base.pathText := by
      rw [Url.pathText, path_target hnone, Url.pathText]
    exact pathText_ne _ request (hpath ▸ hreaches.1)
  · rintro ⟨hquery, hfragment⟩
    refine ⟨?_, ?_⟩
    · rw [← String.toList_inj, String.toList_append, Endpoint.toList_dropSlashes,
        Url.toList_pathText, Url.toList_pathText, slashed_texts_target normal hfragment hquery]
    · rw [target_of_none hfragment hquery]

end Request

/-- **Requests reach their path.** The text that a request is sent to is an address of the node
itself, under the same name. It is below the address of the node, with the path and the query of the
request, if and only if that address has neither a query nor a fragment; otherwise the path is that
of the node, whatever is asked for. -/
theorem Endpoint.reaches_iff {address : String} {endpoint : Endpoint} {request : Request}
    (haddress : ofAddress address = .ok endpoint) (alphanumeric : request.IsAlphanumeric) :
    ∃ url, Url.parse (endpoint.urlFor request.path) = .ok url ∧
      url.IsAlongside endpoint.address ∧
      (url.Reaches endpoint.address request.path ↔
        endpoint.address.query = none ∧ endpoint.address.fragment = none) ∧
      (¬(endpoint.address.query = none ∧ endpoint.address.fragment = none) →
        url.path = endpoint.address.path) := by
  have normal : endpoint.address.IsNormal := by
    rw [ofAddress] at haddress
    split at haddress
    · next hparse =>
      cases haddress
      exact Url.isNormal_of_parse hparse
    · cases haddress
  refine ⟨Request.target endpoint.address request, ?_, Request.isAlongside_target _ _,
    Request.reaches_target_iff normal alphanumeric, Request.path_target⟩
  rw [Request.urlFor_eq_write normal]
  exact Url.parse_write (Request.isNormal_target normal alphanumeric)

/-- Slashes at the end of a path are left out, and a query follows the path. -/
theorem Endpoint.reaches_iff_slashes :
    ∃ endpoint, ofAddress "https://me:pw@[::1]:5052/api//" = .ok endpoint ∧
      ∃ url, Url.parse (endpoint.urlFor (Request.blobSidecars "head" [3]).path) = .ok url ∧
        url.IsAlongside endpoint.address ∧
        url.pathText = "/api/eth/v1/beacon/blob_sidecars/head" ∧ url.query = some "indices=3" := by
  have haddress : ofAddress "https://me:pw@[::1]:5052/api//" = .ok { address := {
      scheme := .https, username := "me", password := "pw", host := .ipv6 [0, 0, 0, 0, 0, 0, 0, 1]
      port := some 5052, path := ["api", "", ""], query := none, fragment := none } } := by
    rfl
  have alphanumeric : (Request.blobSidecars "head" [3]).IsAlphanumeric := by
    have all : "head".toList.all Char.isAlphanum = true := by decide
    rintro id ⟨⟩
    exact List.all_eq_true.1 all
  obtain ⟨url, hparse, halong, hreaches, -⟩ := reaches_iff haddress alphanumeric
  obtain ⟨hpath, hquery⟩ := hreaches.2 ⟨rfl, rfl⟩
  exact ⟨_, haddress, url, hparse, halong, hpath, hquery⟩

/-- What is asked for goes into the query of an address that has one. -/
theorem Endpoint.path_in_query :
    ∃ endpoint url, ofAddress "http://[::1]:5052/?q=1" = .ok endpoint ∧
      Request.nodeVersion.IsAlphanumeric ∧
      endpoint.urlFor Request.nodeVersion.path = "http://[::1]:5052/?q=1/eth/v1/node/version" ∧
      Url.parse "http://[::1]:5052/?q=1/eth/v1/node/version" = .ok url ∧
      url.pathText = "/" ∧ url.query = some "q=1/eth/v1/node/version" ∧
      ¬ url.Reaches endpoint.address Request.nodeVersion.path := by
  refine ⟨_, _, rfl, nofun, rfl, rfl, rfl, rfl, ?_⟩
  rintro ⟨-, hquery⟩
  exact absurd hquery (by decide)

end Beacon
