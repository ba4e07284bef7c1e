import Beacon.Proofs.Url.Ipv6
import Beacon.Proofs.Url.Percent

/-!
# Hosts read back

A host that is read is normal (`Host.isNormal_of_parse`), and a normal host is read back from its
text (`Host.IsNormal.parse_write`). The text holds none of the characters that end a host, other
than the colons between brackets.
-/

namespace Beacon.Url

/-! ### Names -/

namespace Domain

variable {name : List Char}

theorem all_isDomainChar (h : ofText? name = some name) : ∀ c ∈ name, isDomainChar c = true := by
  have hname := (Option.filter_eq_some_iff.1 h).2
  simp only [isName, Bool.and_eq_true] at hname
  exact List.all_eq_true.1 hname.1

theorem digitChar_facts : ∀ n < 10, isDomainChar (Nat.digitChar n) = true ∧
    (Nat.digitChar n).toLower = Nat.digitChar n ∧ (Nat.digitChar n).toNat < 128 ∧
    Nat.digitChar n ≠ 'x' := by
  decide

/-- Digits are read in the direction of the text around them. -/
theorem isRightToLeft_digitChar :
    ∀ n < 10, (Text.direction (Nat.digitChar n)).isRightToLeft = false := by
  -- the rows of a list are passed faster than those of an array
  have rows : ∀ n < 10, (Text.directions.rows.toList.foldl (fun value row =>
      if row.1 ≤ (Nat.digitChar n).toNat then row.2 else value)
        Text.directions.initial).isRightToLeft = false := by
    decide +kernel
  simpa only [Text.direction, Text.CharMap.value, Array.foldl_toList] using rows

theorem read?_digits {label : List Char} (h : ∀ c ∈ label, ∃ n < 10, c = Nat.digitChar n) :
    Label.read? label = some label := by
  have hcode : Label.code? label = none := by
    refine Label.code?.eq_2 label fun code hlabel => ?_
    obtain ⟨n, hn, hx⟩ := h 'x' (hlabel ▸ List.mem_cons_self)
    exact (digitChar_facts n hn).2.2.2 hx.symm
  rw [Label.read?, hcode]

theorem read?_parts (address : Nat) :
    (Ipv4.parts (Ipv4.write address).toList).mapM Label.read? =
      some ((Ipv4.octets address).map (Nat.toDigits 10)) := by
  rw [Ipv4.parts_write, Text.mapM_eq_some_iff]
  refine List.map_congr_left fun label hlabel => read?_digits fun c hc => ?_
  obtain ⟨n, -, rfl⟩ := List.mem_map.1 hlabel
  exact Ipv4.exists_of_mem_toDigits (by decide) hc

theorem areDirected_octets (address : Nat) :
    areDirected ((Ipv4.octets address).map (Nat.toDigits 10)) = true := by
  have hleft : ((Ipv4.octets address).map (Nat.toDigits 10)).any
      (·.any fun c => (Text.direction c).isRightToLeft) = false := by
    refine List.any_eq_false.2 fun label hlabel => ?_
    obtain ⟨n, -, rfl⟩ := List.mem_map.1 hlabel
    refine fun hany => ?_
    obtain ⟨c, hc, hright⟩ := List.any_eq_true.1 hany
    obtain ⟨d, hd, rfl⟩ := Ipv4.exists_of_mem_toDigits (by decide) hc
    rw [isRightToLeft_digitChar d hd] at hright
    cases hright
  rw [areDirected, hleft]
  rfl

/-- The text of an IPv4 address is a name. -/
theorem ofText?_ipv4 (address : Nat) :
    ofText? (Ipv4.write address).toList = some (Ipv4.write address).toList := by
  have each : ∀ c ∈ (Ipv4.write address).toList,
      isDomainChar c = true ∧ c.toLower = c ∧ c.toNat < 128 := by
    intro c hc
    obtain rfl | ⟨n, hn, rfl⟩ := Ipv4.mem_write hc
    · decide
    · obtain ⟨hchar, hlower, hascii, -⟩ := digitChar_facts n hn
      exact ⟨hchar, hlower, hascii⟩
  have hascii : Label.isAscii (Ipv4.write address).toList = true :=
    List.all_eq_true.2 fun c hc => decide_eq_true (each c hc).2.2
  have hlower : (Ipv4.write address).toList.map Char.toLower = (Ipv4.write address).toList :=
    (List.map_congr_left fun c hc => (each c hc).2.1).trans (List.map_id _)
  have hname : isName (Ipv4.write address).toList = true := by
    rw [isName, read?_parts, Bool.and_eq_true]
    exact ⟨List.all_eq_true.2 fun c hc => (each c hc).1, areDirected_octets address⟩
  rw [ofText?, asciiForm?, if_pos hascii, Option.map_some, hlower]
  exact Option.filter_some_pos hname

end Domain

/-! ### Where a host ends -/

/-- Whether a host and its port may hold a character: it ends neither them nor what stands before
them. -/
def isPlace (c : Char) : Bool :=
  0x20 < c.toNat && c.toNat < 0x7F && !endsAuthority true c && c ≠ '@'

theorem isPlace_of_isDomainChar {c : Char} (h : Domain.isDomainChar c = true) :
    isPlace c = true ∧ c ≠ ':' ∧ c ≠ '[' ∧ c ≠ ']' := by
  simp only [Domain.isDomainChar, Bool.and_eq_true, decide_eq_true_eq, Bool.not_eq_true',
    List.contains_eq_mem, decide_eq_false_iff_not] at h
  obtain ⟨⟨⟨hlow, hhigh⟩, -⟩, hplain⟩ := h
  have hne {d : Char} (hd : d ∈ Domain.forbidden) : c ≠ d := fun heq => hplain (heq ▸ hd)
  refine ⟨?_, hne (by decide), hne (by decide), hne (by decide)⟩
  simp only [isPlace, endsAuthority, hlow, hhigh, hne (by decide : '/' ∈ _),
    hne (by decide : '?' ∈ _), hne (by decide : '#' ∈ _), hne (by decide : '\\' ∈ _),
    hne (by decide : '@' ∈ _), decide_true, decide_false, Bool.or_false, Bool.and_false, ne_eq,
    not_false_eq_true, Bool.not_false, Bool.and_true]

theorem isPlace_digitChar : ∀ n < 16, isPlace (Nat.digitChar n) = true ∧
    Nat.digitChar n ≠ '[' ∧ Nat.digitChar n ≠ ']' := by
  decide

theorem hostLength_append {inside : Bool} {text : List Char}
    (h : ∀ c ∈ text, c ≠ '[' ∧ c ≠ ']' ∧ (c = ':' → inside = true)) (rest : List Char) :
    hostLength inside (text ++ rest) = text.length + hostLength inside rest := by
  induction text with
  | nil => exact (Nat.zero_add _).symm
  | cons c text ih =>
    obtain ⟨hopen, hclose, hcolon⟩ := h c List.mem_cons_self
    have hgoes : ¬(c = ':' ∧ (!inside) = true) := by
      rintro ⟨hc, hinside⟩
      rw [hcolon hc] at hinside
      cases hinside
    rw [List.cons_append, hostLength, if_neg hgoes, if_neg hopen, if_neg hclose,
      ih fun d hd => h d (List.mem_cons_of_mem c hd), List.length_cons]
    omega

/-- A host ends where the port begins, or the text. -/
theorem hostLength_port {rest : List Char} (h : ∀ c ∈ rest.head?, c = ':') :
    hostLength false rest = 0 := by
  cases rest with
  | nil => rfl
  | cons c rest =>
    have hc := h c rfl
    subst hc
    rfl

namespace Host

/-! ### Names and addresses -/

/-- A name in ASCII is taken as it is. -/
theorem parse_name {name : List Char} (h : Domain.ofText? name = some name) :
    parse name = ofName name := by
  have chars := Domain.all_isDomainChar h
  have hhead : ∀ rest, name ≠ '[' :: rest := by
    rintro rest rfl
    exact absurd (chars '[' List.mem_cons_self) (by decide)
  have hmark : '%' ∉ name := fun hmem => absurd (chars '%' hmem) (by decide)
  rw [parse.eq_2 name hhead, decode?_percentDecode hmark]
  simp only [String.toList_ofList, h]

theorem ofName_ipv4 {address : Nat} (h : address < 2 ^ 32) :
    ofName (Ipv4.write address).toList = .ok (.ipv4 address) := by
  have hne : (Ipv4.write address).toList ≠ [] := by
    intro hnil
    have hends := Ipv4.endsInNumber_write address
    rw [hnil] at hends
    exact absurd hends (by decide)
  rw [ofName, if_neg hne, if_pos (Ipv4.endsInNumber_write address), Ipv4.parse?_write h]

/-- A host as reading gives it. -/
def IsNormal : Host → Prop
  | .domain name =>
    Domain.ofText? name.toList = some name.toList ∧ ofName name.toList = .ok (.domain name)
  | .ipv4 address => address < 2 ^ 32
  | .ipv6 pieces => Ipv6.IsAddress pieces

theorem isNormal_of_ofName {text name : List Char} {host : Host}
    (hname : Domain.ofText? text = some name) (h : ofName name = .ok host) : host.IsNormal := by
  have hread := h
  unfold ofName at h
  split at h
  · cases h
  · split at h
    · split at h
      · next address haddress =>
        cases h
        exact Ipv4.lt_of_parse? haddress
      · cases h
    · cases h
      rw [IsNormal, String.toList_ofList]
      exact ⟨Domain.ofText?_of_ofText? hname, hread⟩

/-- A host that is read is normal. -/
theorem isNormal_of_parse {text : List Char} {host : Host} (h : parse text = .ok host) :
    host.IsNormal := by
  unfold parse at h
  split at h
  · unfold bracketed at h
    split at h
    · split at h
      · next pieces hpieces =>
        cases h
        exact Ipv6.isAddress_of_parse? hpieces
      · cases h
    · cases h
  · split at h
    · cases h
    · split at h
      · next name hname => exact isNormal_of_ofName hname h
      · cases h

/-! ### Normal hosts -/

variable {host : Host}

theorem toList_write_ipv6 (pieces : List Nat) :
    (Host.ipv6 pieces).write.toList = '[' :: ((Ipv6.write pieces).toList ++ [']']) := by
  simp [write]

/-- A normal host is a name that is its own ASCII form, or an address in brackets. -/
theorem IsNormal.cases (normal : host.IsNormal) :
    (Domain.ofText? host.write.toList = some host.write.toList ∧
      ofName host.write.toList = .ok host) ∨
      ∃ pieces, host = .ipv6 pieces ∧ Ipv6.IsAddress pieces := by
  cases host with
  | domain name => exact .inl normal
  | ipv4 address => exact .inl ⟨Domain.ofText?_ipv4 address, ofName_ipv4 normal⟩
  | ipv6 pieces => exact .inr ⟨pieces, rfl, normal⟩

/-- A normal host is read back from its text. -/
theorem IsNormal.parse_write (normal : host.IsNormal) : parse host.write.toList = .ok host := by
  obtain ⟨hname, hread⟩ | ⟨pieces, rfl, haddress⟩ := normal.cases
  · rw [parse_name hname, hread]
  · rw [toList_write_ipv6, parse, bracketed, List.reverse_concat]
    simp only [List.reverse_reverse, Ipv6.parse?_write haddress]

theorem IsNormal.write_ne_nil (normal : host.IsNormal) : host.write.toList ≠ [] := by
  obtain ⟨-, hread⟩ | ⟨pieces, rfl, -⟩ := normal.cases
  · intro hnil
    rw [hnil] at hread
    cases hread
  · rw [toList_write_ipv6]
    exact List.cons_ne_nil _ _

theorem IsNormal.isPlace_of_mem (normal : host.IsNormal) {c : Char} (h : c ∈ host.write.toList) :
    isPlace c = true := by
  obtain ⟨hname, -⟩ | ⟨pieces, rfl, -⟩ := normal.cases
  · exact (isPlace_of_isDomainChar (Domain.all_isDomainChar hname c h)).1
  · rw [toList_write_ipv6, List.mem_cons, List.mem_append, List.mem_singleton] at h
    obtain rfl | h | rfl := h
    · decide
    · obtain rfl | ⟨n, hn, rfl⟩ := Ipv6.mem_write h
      · decide
      · exact (isPlace_digitChar n hn).1
    · decide

/-- The text of a normal host is what is taken for the host before a port. -/
theorem IsNormal.hostLength_append (normal : host.IsNormal) {rest : List Char}
    (h : ∀ c ∈ rest.head?, c = ':') :
    hostLength false (host.write.toList ++ rest) = host.write.toList.length := by
  obtain ⟨hname, -⟩ | ⟨pieces, rfl, -⟩ := normal.cases
  · rw [Url.hostLength_append, hostLength_port h, Nat.add_zero]
    intro c hc
    obtain ⟨-, hcolon, hopen, hclose⟩ :=
      isPlace_of_isDomainChar (Domain.all_isDomainChar hname c hc)
    exact ⟨hopen, hclose, fun heq => absurd heq hcolon⟩
  · have hinner : hostLength true ((Ipv6.write pieces).toList ++ (']' :: rest)) =
        (Ipv6.write pieces).toList.length + 1 := by
      rw [Url.hostLength_append]
      · show _ + (hostLength false rest + 1) = _
        rw [hostLength_port h]
      · intro c hc
        obtain rfl | ⟨n, hn, rfl⟩ := Ipv6.mem_write hc
        · exact ⟨by decide, by decide, fun _ => rfl⟩
        · obtain ⟨-, hopen, hclose⟩ := isPlace_digitChar n hn
          exact ⟨hopen, hclose, fun _ => rfl⟩
    rw [toList_write_ipv6]
    show hostLength false ('[' :: ((Ipv6.write pieces).toList ++ [']'] ++ rest)) = _
    rw [List.append_assoc]
    show hostLength true ((Ipv6.write pieces).toList ++ (']' :: rest)) + 1 = _
    rw [hinner, List.length_cons, List.length_append]
    rfl

end Host

end Beacon.Url
