import Beacon.Proofs.Url.Host
import Beacon.Proofs.Url.Path

/-!
# Addresses read back

An address that is read is normal (`Url.isNormal_of_parse`), and every normal address is read back
from its normal form (`Url.parse_write`): the user name and the password, the host, the port, the
segments of the path, the query and the fragment are each read back, and each of them ends where the
next one starts.
-/

namespace Beacon.Url

/-- An address as reading gives it: its texts are encoded, its path has segments, without any that
stand for other ones, and its port has 16 bits and is not the default one. -/
structure IsNormal (url : Url) : Prop where
  username : ∀ c ∈ url.username.toList, IsKept userSet c
  password : ∀ c ∈ url.password.toList, IsKept userSet c
  host : url.host.IsNormal
  port : ∀ port ∈ url.port, port < 65536 ∧ port ≠ url.scheme.defaultPort
  path_ne_nil : url.path ≠ []
  path : ∀ segment ∈ url.path, IsSegment segment.toList
  query : ∀ query ∈ url.query, ∀ c ∈ query.toList, IsKept querySet c
  fragment : ∀ fragment ∈ url.fragment, ∀ c ∈ fragment.toList, IsKept fragmentSet c

variable {url : Url}

/-! ### Ports -/

/-- Read one more digit of a port. -/
def portStep? (n : Nat) (c : Char) : Option Nat := do
  let d ← Numeral.digit? c
  if n * 10 + d < 65536 then some (n * 10 + d) else none

theorem lt_of_portStep? {digits : List Char} {n port : Nat} (hn : n < 65536)
    (h : digits.foldlM portStep? n = some port) : port < 65536 := by
  induction digits generalizing n with
  | nil =>
    cases h
    exact hn
  | cons c rest ih =>
    obtain ⟨next, hnext, hrest⟩ := Option.bind_eq_some_iff.1 h
    obtain ⟨d, -, hd⟩ := Option.bind_eq_some_iff.1 hnext
    split at hd
    · next hlt =>
      cases hd
      exact ih hlt hrest
    · cases hd

theorem lt_of_parsePort {text : List Char} {port : Nat} (h : parsePort text = .ok (some port)) :
    port < 65536 := by
  unfold parsePort at h
  split at h
  · simp only at h
    split at h
    · cases h
    · split at h
      · next hport =>
        cases h
        exact lt_of_portStep? (by decide) hport
      · cases h
  · cases h

theorem foldlM_portStep? {port : Nat} (h : port < 65536) :
    (Nat.toDigits 10 port).foldlM portStep? 0 = some port := by
  have digit : ∀ n < 10, Numeral.digit? (Nat.digitChar n) = some n := by decide
  induction port using Nat.strongRecOn with
  | ind n ih =>
    obtain hlt | hle := Nat.lt_or_ge n 10
    · rw [Nat.toDigits_of_lt_base hlt]
      simp [portStep?, digit n hlt, h]
    · have hlast : n % 10 < 10 := Nat.mod_lt n (by decide)
      have hvalue : n / 10 * 10 + n % 10 = n := Nat.div_add_mod' n 10
      rw [Nat.toDigits_of_base_le (by decide) hle, List.foldlM_append,
        ih (n / 10) (Nat.div_lt_self (by omega) (by decide)) (by omega)]
      simp [portStep?, digit _ hlast, hvalue, h]

theorem isPlace_of_mem_toDigits {n : Nat} {c : Char} (h : c ∈ Nat.toDigits 10 n) :
    isPlace c = true := by
  obtain ⟨d, hd, rfl⟩ := Ipv4.exists_of_mem_toDigits (by decide) h
  exact (isPlace_digitChar d (by omega)).1

/-- A port is read back from its digits. -/
theorem parsePort_toDigits {port : Nat} (h : port < 65536) :
    parsePort (':' :: Nat.toDigits 10 port) = .ok (some port) := by
  have hdigits := Text.takeWhile_ne fun hmem : '\\' ∈ Nat.toDigits 10 port =>
    absurd (isPlace_of_mem_toDigits hmem) (by decide)
  have hread := foldlM_portStep? h
  unfold portStep? at hread
  simp only [parsePort, hdigits, if_neg Nat.toDigits_ne_nil, hread]

/-! ### What is read is normal -/

theorem isKept_percentEncode {set text : List Char}
    (h : set ∈ [userSet, pathSet, querySet, fragmentSet]) :
    ∀ c ∈ (String.ofList (percentEncode set text)).toList, IsKept set c := by
  rw [String.toList_ofList]
  exact fun c hc => isKept_of_mem_percentEncode (isKept_of_mem_escapes set h) hc

theorem exists_of_bind_eq_ok {α β : Type} {result : Except Error α} {next : α → Except Error β}
    {value : β} (h : (result >>= next) = .ok value) : ∃ a, result = .ok a ∧ next a = .ok value := by
  cases result with
  | ok a => exact ⟨a, rfl, h⟩
  | error e => cases h

theorem isNormal_of_parseHttp {scheme : Scheme} {text : List Char}
    (h : parseHttp scheme text = .ok url) : url.IsNormal := by
  simp only [parseHttp] at h
  split at h
  · cases h
  · obtain ⟨host, hhost, h⟩ := exists_of_bind_eq_ok h
    obtain ⟨port, hport, h⟩ := exists_of_bind_eq_ok h
    cases h
    obtain ⟨hne, hsegments⟩ := parsePath_facts (splitTail (text.drop
      (text.takeWhile fun c => !endsAuthority true c).length)).1
    refine ⟨isKept_percentEncode (by simp), isKept_percentEncode (by simp),
      Host.isNormal_of_parse hhost, fun p hp => ?_, hne, hsegments, ?_, ?_⟩
    · simp only [Option.mem_def] at hp
      split at hp
      · cases hp
      · next hdefault =>
        subst hp
        exact ⟨lt_of_parsePort hport, fun heq => hdefault (congrArg some heq)⟩
    · intro q hq
      obtain ⟨query, -, rfl⟩ := Option.map_eq_some_iff.1 hq
      exact isKept_percentEncode (by simp)
    · intro f hf
      obtain ⟨fragment, -, rfl⟩ := Option.map_eq_some_iff.1 hf
      exact isKept_percentEncode (by simp)

/-- An address that is read is normal. -/
theorem isNormal_of_parse {text : String} (h : parse text = .ok url) : url.IsNormal := by
  unfold parse at h
  split at h
  · cases h
  · exact isNormal_of_parseHttp h
  · exact isNormal_of_parseHttp h
  · cases h

/-! ### Parts of the normal form -/

/-- The text of the port. -/
def portText (url : Url) : List Char :=
  match url.port with
  | some port => ':' :: Nat.toDigits 10 port
  | none => []

/-- The text of the query. -/
def queryText (url : Url) : List Char :=
  match url.query with
  | some query => '?' :: query.toList
  | none => []

/-- The text of the fragment. -/
def fragmentText (url : Url) : List Char :=
  match url.fragment with
  | some fragment => '#' :: fragment.toList
  | none => []

/-- The texts of the segments. -/
def texts (url : Url) : List (List Char) := url.path.map String.toList

theorem toList_authority (url : Url) :
    url.authority.toList = url.host.write.toList ++ url.portText := by
  unfold authority portText
  cases url.port <;> simp

theorem toList_pathText (url : Url) : url.pathText.toList = slashed url.texts := by
  rw [pathText, String.toList_join, texts, slashed, List.flatMap_map, List.flatMap_map]
  simp

/-- What comes before the path. -/
def front (url : Url) : List Char :=
  url.scheme.name.toList ++ ':' :: '/' :: '/' :: (url.credentials.toList ++ url.authority.toList)

/-- The normal form part by part. -/
theorem toList_write (url : Url) :
    url.write.toList =
      url.front ++ (slashed url.texts ++ (url.queryText ++ url.fragmentText)) := by
  rw [write, target, front]
  simp only [String.toList_append, toList_pathText, List.append_assoc]
  unfold queryText fragmentText
  cases url.query <;> cases url.fragment <;> simp

/-! ### Characters of the parts -/

theorem mem_slashed_texts (normal : url.IsNormal) {c : Char} (h : c ∈ slashed url.texts) :
    c = '/' ∨ IsKept pathSet c := by
  obtain ⟨text, htext, hc⟩ := List.mem_flatMap.1 h
  obtain ⟨segment, hsegment, rfl⟩ := List.mem_map.1 htext
  exact (List.mem_cons.1 hc).imp_right ((normal.path segment hsegment).kept c)

theorem mem_queryText (normal : url.IsNormal) {c : Char} (h : c ∈ url.queryText) :
    c = '?' ∨ IsKept querySet c := by
  unfold queryText at h
  split at h
  · next query hquery => exact (List.mem_cons.1 h).imp_right (normal.query query hquery c)
  · cases h

theorem mem_fragmentText (normal : url.IsNormal) {c : Char} (h : c ∈ url.fragmentText) :
    c = '#' ∨ IsKept fragmentSet c := by
  unfold fragmentText at h
  split at h
  · next fragment hfragment =>
    exact (List.mem_cons.1 h).imp_right (normal.fragment fragment hfragment c)
  · cases h

/-! ### What is written is read back -/

theorem dropWhile_of_lt {text : List Char} (h : ∀ c ∈ text, 0x20 < c.toNat) :
    text.dropWhile (fun c => decide (c.toNat ≤ 0x20)) = text := by
  have stops : ∀ c ∈ text.head?, decide (c.toNat ≤ 0x20) = false := fun c hc =>
    decide_eq_false (Nat.not_le.2 (h c (List.mem_of_mem_head? hc)))
  exact Text.dropWhile_append (fun _ hnil => absurd hnil List.not_mem_nil) stops

/-- A text without blanks and control characters is clean. -/
theorem clean_of_lt {text : List Char} (h : ∀ c ∈ text, 0x20 < c.toNat) : clean text = text := by
  have hback : ∀ c ∈ text.reverse, 0x20 < c.toNat := fun c hc => h c (List.mem_reverse.1 hc)
  simp only [clean, dropWhile_of_lt h, dropWhile_of_lt hback, List.reverse_reverse]
  refine List.filter_eq_self.2 fun c hc => decide_eq_true ?_
  have hlt := h c hc
  refine ⟨?_, ?_, ?_⟩ <;> (rintro rfl; exact absurd hlt (by decide))

theorem splitScheme?_name (scheme : Scheme) (rest : List Char) :
    splitScheme? (scheme.name.toList ++ ':' :: rest) = some (scheme.name, rest) := by
  cases scheme <;> rfl

/-- The path, the query and the fragment end where the next of them starts. -/
theorem splitTail_slashed (normal : url.IsNormal) :
    splitTail (slashed url.texts ++ (url.queryText ++ url.fragmentText)) =
      (slashed url.texts, url.query.map String.toList, url.fragment.map String.toList) := by
  have passes : ∀ c ∈ slashed url.texts, decide (c ≠ '?' ∧ c ≠ '#') = true := by
    intro c hc
    obtain rfl | hkept := mem_slashed_texts normal hc
    · decide
    · refine decide_eq_true ⟨?_, ?_⟩ <;> (rintro rfl; exact hkept.2.2 (by decide))
  have stops : ∀ c ∈ (url.queryText ++ url.fragmentText).head?,
      decide (c ≠ '?' ∧ c ≠ '#') = false := by
    unfold queryText fragmentText
    cases url.query <;> cases url.fragment <;> simp
  have hpath := Text.takeWhile_append passes stops
  simp only [splitTail, hpath, List.drop_left]
  unfold queryText fragmentText
  cases hquery : url.query with
  | none => cases url.fragment <;> rfl
  | some query =>
    have absent : '#' ∉ query.toList := fun hmem =>
      (normal.query query hquery '#' hmem).2.2 (by decide)
    cases url.fragment with
    | none =>
      have hcut := Text.takeWhile_ne absent
      simp only [List.append_nil, hcut, List.drop_length]
      rfl
    | some fragment =>
      have hcut := Text.takeWhile_ne_mark absent fragment.toList
      simp only [List.cons_append, hcut, List.drop_left]
      rfl

/-! ### Credentials -/

theorem splitUser_none {authority : List Char} (h : '@' ∉ authority) :
    splitUser authority = (none, authority) := by
  have hcut := Text.takeWhile_ne (mt List.mem_reverse.1 h)
  simp only [splitUser, hcut, List.reverse_reverse, if_true]

theorem splitUser_some {place : List Char} (h : '@' ∉ place) (user : List Char) :
    splitUser (user ++ '@' :: place) = (some user, place) := by
  have hcut := Text.takeWhile_ne_mark (mt List.mem_reverse.1 h) user.reverse
  have hreverse : (user ++ '@' :: place).reverse = place.reverse ++ '@' :: user.reverse := by simp
  have hlength : (user ++ '@' :: place).length - place.length - 1 = user.length := by
    rw [List.length_append, List.length_cons]
    omega
  have hne : place.length ≠ (user ++ '@' :: place).length := by
    rw [List.length_append, List.length_cons]
    omega
  simp only [splitUser, hreverse, hcut, List.reverse_reverse, if_neg hne, hlength,
    List.take_left]

theorem parseUser_credentials (normal : url.IsNormal) :
    parseUser (url.username.toList ++
      (if url.password = "" then [] else ':' :: url.password.toList)) =
        (url.username, url.password) := by
  have absent : ':' ∉ url.username.toList := fun hmem =>
    (normal.username ':' hmem).2.2 (by decide)
  have stops : ∀ c ∈ (if url.password = "" then [] else ':' :: url.password.toList).head?,
      decide (c ≠ ':') = false := by
    split <;> simp
  have hcut := Text.takeWhile_append (Text.ne_of_absent absent) stops
  have hname := percentEncode_of_isKept normal.username
  have hpassword := percentEncode_of_isKept normal.password
  simp only [parseUser, hcut, hname, String.ofList_toList]
  split
  · next hempty =>
    rw [List.append_nil, List.drop_of_length_le (Nat.le_succ _), hempty]
    rfl
  · rw [← List.drop_drop, List.drop_left]
    show (url.username, String.ofList (percentEncode userSet url.password.toList)) = _
    rw [hpassword, String.ofList_toList]

/-- The user name and the password are read back, and what follows them is left. -/
theorem splitUser_credentials (normal : url.IsNormal) {place : List Char} (h : '@' ∉ place) :
    (splitUser (url.credentials.toList ++ place)).2 = place ∧
      parseUser ((splitUser (url.credentials.toList ++ place)).1.getD []) =
        (url.username, url.password) := by
  by_cases hempty : url.username = "" ∧ url.password = ""
  · rw [credentials, if_pos hempty, hempty.1, hempty.2, String.toList_empty, List.nil_append,
      splitUser_none h]
    exact ⟨rfl, rfl⟩
  · have htext : url.credentials.toList ++ place = url.username.toList ++
        (if url.password = "" then [] else ':' :: url.password.toList) ++ '@' :: place := by
      rw [credentials, if_neg hempty]
      split <;> simp
    rw [htext, splitUser_some h]
    exact ⟨rfl, parseUser_credentials normal⟩

/-! ### Addresses -/

theorem authority_ne_nil (normal : url.IsNormal) : url.authority.toList ≠ [] := by
  rw [toList_authority]
  exact List.append_ne_nil_of_left_ne_nil normal.host.write_ne_nil _

theorem isPlace_of_mem_authority (normal : url.IsNormal) {c : Char}
    (h : c ∈ url.authority.toList) : isPlace c = true := by
  rw [toList_authority, List.mem_append] at h
  obtain h | h := h
  · exact normal.host.isPlace_of_mem h
  · unfold portText at h
    split at h
    · obtain rfl | h := List.mem_cons.1 h
      · decide
      · exact isPlace_of_mem_toDigits h
    · cases h

theorem mem_credentials (normal : url.IsNormal) {c : Char} (h : c ∈ url.credentials.toList) :
    IsKept userSet c ∨ c = ':' ∨ c = '@' := by
  rw [credentials] at h
  split at h
  · cases h
  · simp only [String.toList_append, List.mem_append] at h
    obtain (husername | hpassword) | hmark := h
    · exact .inl (normal.username c husername)
    · split at hpassword
      · cases hpassword
      · rw [String.toList_append, List.mem_append] at hpassword
        obtain hcolon | hpassword := hpassword
        · exact .inr (.inl (List.mem_singleton.1 hcolon))
        · exact .inl (normal.password c hpassword)
    · exact .inr (.inr (List.mem_singleton.1 hmark))

theorem not_endsAuthority (normal : url.IsNormal) :
    ∀ c ∈ url.credentials.toList ++ url.authority.toList, (!endsAuthority true c) = true := by
  intro c hc
  obtain hc | hc := List.mem_append.1 hc
  · obtain hkept | rfl | rfl := mem_credentials normal hc
    · have hne {d : Char} (hd : d ∈ userSet) : c ≠ d := fun heq => hkept.2.2 (heq ▸ hd)
      simp only [endsAuthority, hne (by decide : '/' ∈ userSet), hne (by decide : '?' ∈ userSet),
        hne (by decide : '#' ∈ userSet), hne (by decide : '\\' ∈ userSet), decide_false,
        Bool.or_false, Bool.and_false, Bool.not_false]
    · decide
    · decide
  · have hplace := isPlace_of_mem_authority normal hc
    simp only [isPlace, Bool.and_eq_true] at hplace
    exact hplace.1.2

theorem exists_slashed (normal : url.IsNormal) : ∃ rest, slashed url.texts = '/' :: rest := by
  unfold texts
  cases hpath : url.path with
  | nil => exact absurd hpath normal.path_ne_nil
  | cons segment path => exact ⟨_, rfl⟩

theorem parsePort_portText (normal : url.IsNormal) : parsePort url.portText = .ok url.port := by
  unfold portText
  cases hport : url.port with
  | none => rfl
  | some port => exact parsePort_toDigits (normal.port port hport).1

/-- The path is read back. -/
theorem parsePath_texts (normal : url.IsNormal) : parsePath (slashed url.texts) = url.path := by
  have hne : url.texts ≠ [] := mt List.map_eq_nil_iff.1 normal.path_ne_nil
  have hsegments : ∀ text ∈ url.texts, IsSegment text := by
    intro text htext
    obtain ⟨segment, hsegment, rfl⟩ := List.mem_map.1 htext
    exact normal.path segment hsegment
  rw [parsePath_slashed hne hsegments, texts, List.map_map]
  exact (List.map_congr_left fun s _ => String.ofList_toList).trans (List.map_id _)

theorem encode_of_isKept {set : List Char} {part : Option String}
    (h : ∀ text ∈ part, ∀ c ∈ text.toList, IsKept set c) :
    (part.map String.toList).map (fun text => String.ofList (percentEncode set text)) = part := by
  cases part with
  | none => rfl
  | some text =>
    have htext := percentEncode_of_isKept (h text rfl)
    simp only [Option.map_some, htext, String.ofList_toList]

theorem parseHttp_write (normal : url.IsNormal) :
    parseHttp url.scheme (url.credentials.toList ++ url.authority.toList ++
      (slashed url.texts ++ (url.queryText ++ url.fragmentText))) = .ok url := by
  obtain ⟨rest, hslash⟩ := exists_slashed normal
  have stops : ∀ c ∈ (slashed url.texts ++ (url.queryText ++ url.fragmentText)).head?,
      (!endsAuthority true c) = false := by
    rw [hslash]
    rintro c ⟨⟩
    decide
  have hauthority := Text.takeWhile_append (not_endsAuthority normal) stops
  have hplain : '@' ∉ url.authority.toList := fun h =>
    absurd (isPlace_of_mem_authority normal h) (by decide)
  obtain ⟨hplace, huser⟩ := splitUser_credentials normal hplain
  have hlength : hostLength false url.authority.toList = url.host.write.toList.length := by
    rw [toList_authority]
    refine normal.host.hostLength_append ?_
    unfold portText
    cases url.port <;> simp
  have hsome : url.host.write.toList.length ≠ 0 := mt List.length_eq_zero_iff.1
    normal.host.write_ne_nil
  have hport : (if url.port = some url.scheme.defaultPort then none else url.port) = url.port :=
    if_neg fun hdefault => (normal.port _ hdefault).2 rfl
  simp only [parseHttp, hauthority, List.drop_left, splitTail_slashed normal, hplace, huser,
    hlength, if_neg hsome]
  rw [toList_authority, List.take_left, List.drop_left, normal.host.parse_write,
    parsePort_portText normal]
  simp only [bind, Except.bind, pure, Except.pure, hport, parsePath_texts normal,
    encode_of_isKept normal.query, encode_of_isKept normal.fragment]

/-- A normal form holds no blanks and no control characters. -/
theorem lt_of_mem_write (normal : url.IsNormal) : ∀ c ∈ url.write.toList, 0x20 < c.toNat := by
  have hname : ∀ c ∈ url.scheme.name.toList, 0x20 < c.toNat := by
    have all : url.scheme.name.toList.all (fun c => decide (0x20 < c.toNat)) = true := by
      cases url.scheme <;> decide
    exact fun c hc => of_decide_eq_true (List.all_eq_true.1 all c hc)
  have hcredentials : ∀ c ∈ url.credentials.toList, 0x20 < c.toNat := by
    intro c hc
    obtain hkept | rfl | rfl := mem_credentials normal hc
    · exact lt_of_isKept (by decide) hkept
    · decide
    · decide
  have hauthority : ∀ c ∈ url.authority.toList, 0x20 < c.toNat := by
    intro c hc
    have hplace := isPlace_of_mem_authority normal hc
    simp only [isPlace, Bool.and_eq_true, decide_eq_true_eq] at hplace
    exact hplace.1.1.1
  have hpath : ∀ c ∈ slashed url.texts, 0x20 < c.toNat := by
    intro c hc
    obtain rfl | hkept := mem_slashed_texts normal hc
    · decide
    · exact lt_of_isKept (by decide) hkept
  have hquery : ∀ c ∈ url.queryText, 0x20 < c.toNat := by
    intro c hc
    obtain rfl | hkept := mem_queryText normal hc
    · decide
    · exact lt_of_isKept (by decide) hkept
  have hfragment : ∀ c ∈ url.fragmentText, 0x20 < c.toNat := by
    intro c hc
    obtain rfl | hkept := mem_fragmentText normal hc
    · decide
    · exact lt_of_isKept (by decide) hkept
  simp only [toList_write, front, List.forall_mem_append, List.forall_mem_cons]
  exact ⟨⟨hname, by decide, by decide, by decide, hcredentials, hauthority⟩, hpath, hquery,
    hfragment⟩

/-- An address is read back from its normal form. -/
theorem parse_write (normal : url.IsNormal) : parse url.write = .ok url := by
  have hclean := clean_of_lt (lt_of_mem_write normal)
  have hslashes : ∀ c ∈ ['/', '/'], isSlash c = true := by simp [isSlash]
  have hstart : ∀ c ∈ (url.credentials.toList ++ url.authority.toList ++
      (slashed url.texts ++ (url.queryText ++ url.fragmentText))).head?, isSlash c = false := by
    obtain ⟨d, rest, hplace⟩ := List.exists_cons_of_ne_nil
      (List.append_ne_nil_of_right_ne_nil url.credentials.toList (authority_ne_nil normal))
    have hd := not_endsAuthority normal d (hplace ▸ List.mem_cons_self)
    rw [hplace]
    rintro c ⟨⟩
    simp only [endsAuthority, Bool.not_eq_true', Bool.or_eq_false_iff, Bool.true_and] at hd
    rw [isSlash, hd.1.1.1, hd.2, Bool.or_false]
  have hdrop := Text.dropWhile_append hslashes hstart
  have hread := parseHttp_write normal
  rw [parse, hclean, toList_write, front, List.append_assoc, List.cons_append,
    splitScheme?_name]
  cases hscheme : url.scheme with
  | http =>
    rw [hscheme] at hread
    exact (congrArg (parseHttp .http) hdrop).trans hread
  | https =>
    rw [hscheme] at hread
    exact (congrArg (parseHttp .https) hdrop).trans hread

end Beacon.Url
