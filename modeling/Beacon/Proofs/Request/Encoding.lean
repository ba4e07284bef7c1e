import Beacon.Proofs.Json.Faithful
import Beacon.Proofs.Request.Path

/-!
# Requests told apart

Different requests have different paths or different bodies, whatever blocks and states they name,
as long as no question mark is in them. The stem and the tail of a path tell its kind
(`Capability.eq_of_comparable`), what is between them is the subject, and the numbers that a request
lists are read back from its query or its body.
-/

namespace Beacon

/-- Kinds of requests whose stems start alike and whose tails end alike are the same. -/
theorem Capability.eq_of_comparable :
    ∀ c ∈ all, ∀ d ∈ all, c.stem.toList <+: d.stem.toList →
      c.tail.toList <:+ d.tail.toList ∨ d.tail.toList <:+ c.tail.toList → c = d := by
  decide

namespace Request

variable {r s : Request}

theorem toList_route (r : Request) :
    r.route.toList =
      r.capability.stem.toList ++ (r.subject.toList ++ r.capability.tail.toList) := by
  simp only [route, String.toList_append, List.append_assoc]

theorem stem_prefix_route (r : Request) : r.capability.stem.toList <+: r.route.toList :=
  ⟨_, (toList_route r).symm⟩

theorem tail_suffix_route (r : Request) : r.capability.tail.toList <:+ r.route.toList := by
  rw [toList_route, ← List.append_assoc]
  exact List.suffix_append ..

/-- What stands before the query tells the kind of a request and what it names. -/
theorem eq_of_route_eq (h : r.route = s.route) :
    r.capability = s.capability ∧ r.subject = s.subject := by
  have hstem : r.capability.stem.toList <+: s.route.toList := h ▸ stem_prefix_route r
  have htail : r.capability.tail.toList <:+ s.route.toList := h ▸ tail_suffix_route r
  have tails := List.suffix_or_suffix_of_suffix htail (tail_suffix_route s)
  have hr := Capability.mem_all r.capability
  have hs := Capability.mem_all s.capability
  have hcapability : r.capability = s.capability := by
    obtain hprefix | hprefix := List.prefix_or_prefix_of_prefix hstem (stem_prefix_route s)
    · exact Capability.eq_of_comparable _ hr _ hs hprefix tails
    · exact (Capability.eq_of_comparable _ hs _ hr hprefix tails.symm).symm
  refine ⟨hcapability, ?_⟩
  have htext := congrArg String.toList h
  rw [toList_route, toList_route, hcapability, List.append_right_inj, List.append_left_inj] at htext
  exact String.toList_inj.1 htext

/-- The body of a request for the liveness of validators is read back. -/
theorem decode_body (epoch : UInt64) (indices : List UInt64) :
    ∃ body, (validatorLiveness epoch indices).body? = some body ∧
      Json.Codec.quotedList.decode body = .ok indices :=
  ⟨_, rfl, Json.Codec.isLossless_quotedList.decode_encode indices⟩

theorem indices_eq (hcapability : r.capability = s.capability) (hquery : r.query? = s.query?)
    (hbody : r.body? = s.body?) : r.indices = s.indices := by
  cases r with
  | blobSidecars id indices =>
    cases s <;> cases hcapability
    have hread := readQuery?_query id indices
    rw [hquery, readQuery?_query] at hread
    exact (Option.some.inj hread).symm
  | validatorLiveness epoch indices =>
    cases s <;> cases hcapability
    obtain ⟨body, hsome, hread⟩ := decode_body epoch indices
    obtain ⟨body', hsome', hread'⟩ := decode_body _ _
    rw [hbody, hsome'] at hsome
    cases hsome
    rw [hread] at hread'
    exact Except.ok.inj hread'
  | genesis | nodeVersion | blockHeader | blockRoot | stateRoot | finalityCheckpoints | state =>
    cases s <;> cases hcapability
    rfl

theorem write_inj {m n : UInt64} (h : Numeral.write m = Numeral.write n) : m = n := by
  have hread := Numeral.read_write m
  rw [h, Numeral.read_write] at hread
  exact (Except.ok.inj hread).symm

/-- A request is made up of its kind, what it names and the numbers that it lists. -/
theorem eq_of_parts (hcapability : r.capability = s.capability) (hsubject : r.subject = s.subject)
    (hindices : r.indices = s.indices) : r = s := by
  cases r with
  | validatorLiveness epoch indices =>
    cases s <;> cases hcapability
    cases write_inj hsubject
    cases hindices
    rfl
  | genesis | nodeVersion | blockHeader | blockRoot | stateRoot | finalityCheckpoints | state
    | blobSidecars =>
    cases s <;> cases hcapability
    cases hsubject
    cases hindices
    rfl

/-- **Requests are told apart.** Requests with one path and one body are the same, if no question
mark is in the blocks and states that they name. The places of blobs are read back from the query of
the path, and the numbers of validators from the body, each in their order. -/
theorem encoded_apart :
    (∀ r s : Request, r.IsPlain → s.IsPlain → r.path = s.path → r.body? = s.body? → r = s) ∧
    (∀ id indices, (blobSidecars id indices).IsPlain →
      readQuery? (queryPart (blobSidecars id indices).path) = some indices) ∧
    ∀ epoch indices, ∃ body, (validatorLiveness epoch indices).body? = some body ∧
      Json.Codec.quotedList.decode body = .ok indices := by
  refine ⟨fun r s hr hs hpath hbody => ?_, fun id indices plain => ?_, decode_body⟩
  · have hroute := congrArg pathPart hpath
    rw [hr.pathPart_path, hs.pathPart_path] at hroute
    have hquery := congrArg queryPart hpath
    rw [hr.queryPart_path, hs.queryPart_path] at hquery
    obtain ⟨hcapability, hsubject⟩ := eq_of_route_eq hroute
    exact eq_of_parts hcapability hsubject (indices_eq hcapability hquery hbody)
  · rw [plain.queryPart_path, readQuery?_query]

/-- A block whose name looks like the rest of a path, and the places of two of its blobs. -/
theorem encoded_apart_ambiguous :
    readQuery? (queryPart (blobSidecars "a/root&indices=7" [0, 2]).path) = some [0, 2] ∧
      blobSidecars "a/root&indices=7" ([0] ++ [2]) = blobSidecars "a/root&indices=7" [0, 2] := by
  have plain : (blobSidecars "a/root&indices=7" [0, 2]).IsPlain := by
    rintro id ⟨⟩
    decide
  obtain ⟨apart, read, -⟩ := encoded_apart
  exact ⟨read _ _ plain, apart _ _ plain plain rfl rfl⟩

end Request

end Beacon
