import Beacon.Proofs.Pool.FirstSuccess
import Beacon.Proofs.Pool.Majority

/-!
# Causes of errors

A call that ends with an error tells of every member that failed, once and with the failure of that
member, and of no other. A member that has not reported has no failure of its own; what counts for
it then is that the deadline has passed, or that its task is gone.

* `Choice.select_cases`: a policy that gives up names all failures among the reports;
* `Operation.ballot_eq_of_error`: a call that ends with an error has left nothing out, as what
  settles a policy before everyone has reported is an answer;
* `Operation.failures_perm`: what the policy is then given are the failures of the members;
* `Tells` is what an error says of the members, and `Operation.tells_of_error` that it is true.
-/

namespace Beacon

variable {n : Nat} {α : Type}

/-! ### What policies give up with -/

theorem Report.failure?_eq_none {report : Report α} :
    report.failure? = none ↔ report.value?.isSome = true ∨ report.isNotFound = true := by
  obtain ⟨endpoint, outcome⟩ := report
  cases outcome <;> simp [failure?, value?, isNotFound]

/-- A tally has neither values nor denials if and only if all reports are failures. -/
theorem Tally.isEmpty_ofReports (reports : List (Report α)) :
    ((Tally.ofReports reports).successes.isEmpty && (Tally.ofReports reports).notFound.isEmpty) =
      true ↔ ∀ r ∈ reports, r.failure? ≠ none := by
  simp only [ofReports, Bool.and_eq_true, List.isEmpty_iff, List.map_eq_nil_iff,
    List.filterMap_eq_nil_iff, List.filter_eq_nil_iff, Option.map_eq_none_iff, ne_eq,
    Report.failure?_eq_none, not_or, Option.not_isSome_iff_eq_none]
  exact ⟨fun h r hr => ⟨h.1 r hr, h.2 r hr⟩,
    fun h => ⟨fun r hr => (h r hr).1, fun r hr => (h r hr).2⟩⟩

/-- A selection that gives up names all failures among the reports: it has failed if there is
nothing else, and is undecided if there is. -/
inductive Selection.GivesUp (reports : List (Report α)) : Selection α → Prop where
  /-- There is nothing else. -/
  | failed (all : ∀ r ∈ reports, r.failure? ≠ none) :
    GivesUp reports (.failed (reports.filterMap Report.failure?))
  /-- There is something else. -/
  | inconclusive (reason : String) (some : ∃ r ∈ reports, r.failure? = none) :
    GivesUp reports (.inconclusive reason (reports.filterMap Report.failure?))

/-- Without a majority for a value, the policy of majorities denies or gives up. -/
theorem Policy.selectAbsent_ofReports [BEq α] (reports : List (Report α)) (quorum : Nat) :
    selectAbsent (Tally.ofReports reports) quorum = .notFound ∨
      (selectAbsent (Tally.ofReports reports) quorum).GivesUp reports := by
  have hempty := Tally.isEmpty_ofReports reports
  rw [Bool.and_eq_true, List.isEmpty_iff, List.isEmpty_iff] at hempty
  rcases selectAbsent_cases (Tally.ofReports reports) quorum with
    ⟨-, hselect⟩ | ⟨-, ⟨hvalues, hdenials, hselect⟩ | ⟨hsome, hselect⟩⟩
  · exact .inl hselect
  · rw [hselect]
    exact .inr (.failed (hempty.1 ⟨hvalues, hdenials⟩))
  · rw [hselect]
    exact .inr (.inconclusive _ (by simpa using mt hempty.2 (not_and_or.2 hsome)))

/-- A policy chooses an answer or gives up; the policy of the first value is never undecided. -/
theorem Choice.select_cases [BEq α] (choice : Choice) (reports : List (Report α)) (quorum : Nat) :
    (∃ v, choice.policy.select reports quorum = .found v) ∨
      choice.policy.select reports quorum = .notFound ∨
      (choice.policy.select reports quorum).GivesUp reports ∧
        (choice = .firstSuccess → ∀ reason failures,
          choice.policy.select reports quorum ≠ .inconclusive reason failures) := by
  cases choice with
  | firstSuccess =>
    rw [policy, Policy.firstSuccess_select]
    cases hvalue : reports.findSome? Report.value? with
    | some v => exact .inl ⟨v, rfl⟩
    | none =>
      simp only
      split
      · exact .inr (.inl rfl)
      · next hdenied =>
        refine .inr (.inr ⟨.failed fun r hr hnone => ?_, fun _ _ _ h => by cases h⟩)
        rcases Report.failure?_eq_none.1 hnone with h | h
        · rw [List.findSome?_eq_none_iff.1 hvalue r hr] at h
          cases h
        · exact hdenied (List.any_eq_true.2 ⟨r, hr, h⟩)
  | majority =>
    have habsent := Policy.selectAbsent_ofReports reports quorum
    simp only [policy, Policy.majority]
    split
    · split
      · exact .inl ⟨_, rfl⟩
      · exact .inr (habsent.imp_right fun h => ⟨h, fun hfirst => by cases hfirst⟩)
    · exact .inr (habsent.imp_right fun h => ⟨h, fun hfirst => by cases hfirst⟩)

namespace Operation

variable [BEq α] (op : Operation n α) {choice : Choice} {arrivals : List (Arrival n α)}
  {failure : Failure}

/-- A call that ends with an error tells of all failures on its ballot. -/
theorem answer_error_cases (policy : op.policy = choice.policy)
    (h : op.answer arrivals = .error failure) :
    ((∀ r ∈ op.ballot arrivals, r.failure? ≠ none) ∧
        op.conclude (.failed ((op.ballot arrivals).filterMap Report.failure?)) =
          .error failure) ∨
      (choice = .majority ∧ (∃ r ∈ op.ballot arrivals, r.failure? = none) ∧
        ∃ reason, failure =
          .inconclusive op.name reason ((op.ballot arrivals).filterMap Report.failure?)) := by
  have hcases := choice.select_cases (op.ballot arrivals) (op.quorum arrivals)
  rw [answer, policy] at h
  generalize choice.policy.select (op.ballot arrivals) (op.quorum arrivals) = selection at h hcases
  obtain ⟨v, rfl⟩ | rfl | ⟨⟨all⟩ | ⟨reason, some⟩, hfirst⟩ := hcases
  · cases h
  · cases h
  · exact .inl ⟨all, h⟩
  · cases h
    cases choice with
    | firstSuccess => exact absurd rfl (hfirst rfl _ _)
    | majority => exact .inr ⟨rfl, some, reason, rfl⟩

/-- A call that ends with an error has taken notice of everything, and if its policy was settled,
everyone has reported: what settles a policy before that is an answer. -/
theorem all_of_error [PartialEquivBEq α] {deeds : Deeds n α} (policy : op.policy = choice.policy)
    (order : arrivals.Perm deeds.arrivals) (h : op.answer arrivals = .error failure) :
    op.received arrivals = arrivals ∧
      (op.isSettledBy arrivals = true → n ≤ (op.reports arrivals).length) := by
  have once := Deeds.nodup_of_perm order
  cases choice with
  | firstSuccess =>
    have hnone : arrivals.findSome? Arrival.value? = none := by
      cases hvalue : arrivals.findSome? Arrival.value? with
      | none => rfl
      | some v => rw [op.firstSuccess_answer policy once, hvalue] at h; cases h
    exact ⟨op.received_eq_of_none policy once hnone,
      fun hs => op.length_le_of_no_value policy hs hnone⟩
  | majority =>
    have majority : op.policy.IsMajority := Policy.isMajority_of_eq policy
    obtain ⟨v, hanswer, -⟩ | ⟨hanswer, -⟩ | ⟨-, hvotes, hdenials⟩ :=
      op.majority_answer_cases majority order
    · rw [h] at hanswer; cases hanswer
    · rw [h] at hanswer; cases hanswer
    · have hall : op.received arrivals = arrivals :=
        op.received_eq_of_undecided majority order
          (fun v => (Nat.mul_le_mul_left 2 (op.countP_received_le order _)).trans (hvotes v))
          ((Nat.mul_le_mul_left 2 (op.countP_received_le order _)).trans hdenials)
      refine ⟨hall, fun hs => ?_⟩
      -- a settled call decides by all members, among whom nothing has a majority
      have hquorum : op.quorum arrivals = n := by
        rw [quorum_eq, isLate_eq, hall, hs]
        rfl
      rw [hquorum] at hvotes hdenials
      rcases majority.settled _ _ hs with hlen | hd | ⟨v, hv⟩
      · exact hlen
      · rw [Report.denials, op.countP_reports order] at hd
        exact absurd hdenials (Nat.not_le.2 hd)
      · rw [Report.votes, op.countP_reports order] at hv
        exact absurd (hvotes v) (Nat.not_le.2 hv)

omit [BEq α] in
/-- If everyone has reported, nobody is silent. -/
theorem absences_eq_nil (once : (arrivals.map Arrival.member).Nodup)
    (h : n ≤ (op.reports arrivals).length) : op.absences arrivals = [] := by
  have hlength := (Arrival.reporters_append_silent_perm once).length_eq
  have hreporters := congrArg List.length (op.map_endpoint_reports arrivals)
  rw [List.length_append, List.length_finRange] at hlength
  rw [List.length_map, List.length_map] at hreporters
  rw [absences, List.map_eq_nil_iff]
  exact List.eq_nil_of_length_eq_zero (by omega)

/-- The ballot of a call that ends with an error: every report, and every absence. -/
theorem ballot_eq_of_error [PartialEquivBEq α] {deeds : Deeds n α}
    (policy : op.policy = choice.policy) (order : arrivals.Perm deeds.arrivals)
    (h : op.answer arrivals = .error failure) :
    op.ballot arrivals = op.reports arrivals ++ op.absences arrivals := by
  obtain ⟨hall, heveryone⟩ := op.all_of_error policy order h
  rw [ballot_eq, hall]
  cases hs : op.isSettledBy arrivals with
  | false => rfl
  | true => rw [op.absences_eq_nil (Deeds.nodup_of_perm order) (heveryone hs)]; rfl

end Operation

/-! ### The failures of the members -/

/-- Two ways to pick from a list that never pick the same, one after the other or at once. -/
theorem filterMap_append_filterMap_perm {β γ : Type} {f g : β → Option γ} {l : List β}
    (disjoint : ∀ a ∈ l, f a = none ∨ g a = none) :
    (l.filterMap f ++ l.filterMap g).Perm (l.filterMap fun a => (f a).or (g a)) := by
  induction l with
  | nil => exact .nil
  | cons a rest ih =>
    have ih := ih fun b hb => disjoint b (List.mem_cons_of_mem a hb)
    cases hf : f a with
    | some c =>
      have hg : g a = none := (disjoint a List.mem_cons_self).resolve_left (by simp [hf])
      simpa [List.filterMap_cons, hf, hg] using ih
    | none =>
      cases hg : g a with
      | none => simpa [List.filterMap_cons, hf, hg] using ih
      | some c =>
        simpa [List.filterMap_cons, hf, hg] using List.perm_middle.trans (ih.cons c)

namespace Deeds

variable (deeds : Deeds n α)

/-- The failure that a member reports, if it does. -/
def reported? (member : Fin n) : Option Failure :=
  match deeds member with
  | some (.result (.error cause)) => some cause
  | _ => none

/-- What a member fails with, if it does: the failure that it reports, or its absence if it has not
reported. -/
def cause? (absence : Fin n → Failure) (member : Fin n) : Option Failure :=
  match deeds member with
  | some (.result (.error cause)) => some cause
  | some (.result (.ok _)) => none
  | _ => some (absence member)

/-- Whether nobody reports a value or that there is no such thing. -/
def AllFail : Prop := ∀ member answer, deeds member ≠ some (.result (.ok answer))

variable {deeds}

theorem reported?_eq_none {member : Fin n}
    (h : ¬ ∃ result, deeds member = some (.result result)) : deeds.reported? member = none := by
  unfold reported?
  split
  · next hdeed => exact absurd ⟨_, hdeed⟩ h
  · rfl

theorem cause?_eq_absence {absence : Fin n → Failure} {member : Fin n}
    (h : ¬ ∃ result, deeds member = some (.result result)) :
    deeds.cause? absence member = some (absence member) := by
  unfold cause?
  split
  · next hdeed => exact absurd ⟨_, hdeed⟩ h
  · next hdeed => exact absurd ⟨_, hdeed⟩ h
  · rfl

variable {arrivals : List (Arrival n α)}

theorem mem_reporters_iff (order : arrivals.Perm deeds.arrivals) {member : Fin n} :
    member ∈ Arrival.reporters arrivals ↔ ∃ result, deeds member = some (.result result) := by
  simp only [Arrival.reporters, List.mem_map, List.mem_filter, mem_of_perm order]
  constructor
  · rintro ⟨⟨member, result | _⟩, ⟨hdeed, hreport⟩, rfl⟩
    · exact ⟨result, hdeed⟩
    · cases hreport
  · rintro ⟨result, h⟩
    exact ⟨⟨member, .result result⟩, ⟨h, rfl⟩, rfl⟩

end Deeds

namespace Operation

variable (op : Operation n α) {deeds : Deeds n α} {arrivals : List (Arrival n α)}

/-- The failures of the members, in the order of the members, each with the address of its member:
those that they report; and for a member that has not reported, that the deadline has passed, or
that its task is gone if nobody goes on. -/
def causes (deeds : Deeds n α) : List MemberFailure :=
  (List.finRange n).filterMap fun member =>
    (deeds.cause? (op.absence deeds.isPartial) member).map (op.address member, ·)

theorem filterMap_failure?_reports :
    (op.reports deeds.arrivals).filterMap Report.failure? =
      (List.finRange n).filterMap fun member =>
        (deeds.reported? member).map (op.address member, ·) := by
  rw [reports, Deeds.arrivals, List.filterMap_filterMap, List.filterMap_filterMap]
  refine List.filterMap_congr fun member _ => ?_
  unfold Deeds.reported?
  obtain - | ⟨cause | answer⟩ | _ := deeds member
  · rfl
  · rfl
  · cases answer <;> rfl
  · rfl

/-- Reports and absences together hold the failure of every member that fails, once. -/
theorem failures_perm (order : arrivals.Perm deeds.arrivals) :
    ((op.reports arrivals ++ op.absences arrivals).filterMap Report.failure?).Perm
      (op.causes deeds) := by
  have hreports : ((op.reports arrivals).filterMap Report.failure?).Perm
      ((List.finRange n).filterMap fun member =>
        (deeds.reported? member).map (op.address member, ·)) :=
    ((order.filterMap _).filterMap _).trans (.of_eq op.filterMap_failure?_reports)
  have hlate : decide (arrivals.length < n) = deeds.isPartial := by
    rw [Bool.eq_iff_iff, decide_eq_true_iff, Deeds.length_lt_iff order]
  let isSilent (member : Fin n) : Bool := decide (member ∉ Arrival.reporters arrivals)
  have habsences : (op.absences arrivals).filterMap Report.failure? =
      (List.finRange n).filterMap fun member =>
        if isSilent member then some (op.address member, op.absence deeds.isPartial member)
        else none := by
    rw [absences, hlate, List.filterMap_map, Arrival.silent, List.filterMap_filter]
    rfl
  have hsilent (member : Fin n) :
      isSilent member = true ↔ ¬ ∃ result, deeds member = some (.result result) := by
    rw [decide_eq_true_iff, Deeds.mem_reporters_iff order]
  -- who reports is not silent, so that the two never name the same member
  rw [List.filterMap_append, habsences]
  refine (hreports.append_right _).trans ((filterMap_append_filterMap_perm ?_).trans
    (.of_eq (List.filterMap_congr fun member _ => ?_)))
  · intro member _
    cases hs : isSilent member with
    | false => exact .inr rfl
    | true =>
      rw [hsilent] at hs
      rw [Deeds.reported?_eq_none hs]
      exact .inl rfl
  · by_cases hs : ∃ result, deeds member = some (.result result)
    · have hfalse : isSilent member = false := by simpa [hs] using hsilent member
      obtain ⟨result, hdeed⟩ := hs
      cases result <;> simp [Deeds.reported?, Deeds.cause?, hdeed, hfalse]
    · rw [Deeds.reported?_eq_none hs, Deeds.cause?_eq_absence hs, (hsilent member).2 hs]
      rfl

end Operation

/-! ### What an error says -/

/-- What the error of a call to `n` of some configured members says of them. -/
inductive Tells (choice : Choice) (configured : Nat) (op : Operation n α) (deeds : Deeds n α) :
    Failure → Prop where
  /-- The only member is configured alone, and has failed: the error is its failure as it is. -/
  | bare (member : Fin n) (cause : Failure) (alone : configured = 1) (all : deeds.AllFail)
    (causes_eq : op.causes deeds = [(op.address member, cause)])
    (cause_eq : deeds.cause? (op.absence deeds.isPartial) member = some cause) :
    Tells choice configured op deeds cause
  /-- All members have failed: the error has one failure for each of them. -/
  | aggregate (failures : List MemberFailure) (several : configured ≠ 1) (all : deeds.AllFail)
    (failures_perm : failures.Perm (op.causes deeds)) (length_eq : failures.length = n) :
    Tells choice configured op deeds (.aggregate op.name failures)
  /-- There are answers, but no majority of them: the error has the failures of the other
  members. -/
  | inconclusive (reason : String) (failures : List MemberFailure) (several : configured ≠ 1)
    (majority : choice = .majority)
    (some : ∃ member answer, deeds member = some (.result (.ok answer)))
    (failures_perm : failures.Perm (op.causes deeds)) :
    Tells choice configured op deeds (.inconclusive op.name reason failures)

namespace Deeds

variable {deeds : Deeds n α}

theorem not_allFail_iff :
    ¬ deeds.AllFail ↔ ∃ member answer, deeds member = some (.result (.ok answer)) := by
  simp [AllFail]

/-- Everyone fails if and only if there are only failures on the ballot. -/
theorem allFail_iff (op : Operation n α) {arrivals : List (Arrival n α)}
    (order : arrivals.Perm deeds.arrivals) :
    deeds.AllFail ↔ ∀ r ∈ op.reports arrivals ++ op.absences arrivals, r.failure? ≠ none := by
  constructor
  · intro all r hr hnone
    rcases List.mem_append.1 hr with hr | hr
    · obtain ⟨a, ha, hreport⟩ := List.mem_filterMap.1 hr
      obtain ⟨member, ⟨cause | answer⟩ | _⟩ := a <;> cases hreport
      · cases hnone
      · exact all member answer ((mem_of_perm order).1 ha)
    · obtain ⟨member, -, rfl⟩ := List.mem_map.1 hr
      cases hnone
  · intro h member answer hdeed
    have hmem : ⟨op.address member, .ofResult (.ok answer)⟩ ∈ op.reports arrivals :=
      List.mem_filterMap.2 ⟨⟨member, _⟩, (mem_of_perm order).2 hdeed, rfl⟩
    refine h _ (List.mem_append_left _ hmem) ?_
    cases answer <;> rfl

end Deeds

namespace Operation

variable (op : Operation n α) {deeds : Deeds n α} {arrivals : List (Arrival n α)}

/-- If everyone fails, every member has a cause. -/
theorem length_causes (all : deeds.AllFail) : (op.causes deeds).length = n := by
  rw [causes, List.length_filterMap_eq_countP, List.countP_eq_length.2, List.length_finRange]
  intro member _
  unfold Deeds.cause?
  split
  · rfl
  · next hdeed => exact absurd hdeed (all member _)
  · rfl

variable [BEq α] [EquivBEq α] {choice : Choice} {failure : Failure}

/-- Where a call by majority to one member ends with an error, that member fails. -/
theorem allFail_of_single (majority : op.policy.IsMajority) (order : arrivals.Perm deeds.arrivals)
    (single : n = 1) (h : op.answer arrivals = .error failure) : deeds.AllFail := by
  intro member answer hdeed
  obtain ⟨v, hanswer, -⟩ | ⟨hanswer, -⟩ | ⟨-, hvotes, hdenials⟩ :=
    op.majority_answer_cases majority order
  · rw [h] at hanswer; cases hanswer
  · rw [h] at hanswer; cases hanswer
  · -- a single answer is more than half of one
    have hquorum := op.quorum_le order
    have hpos {kind : Outcome α → Bool} (hkind : kind (.ofResult (.ok answer)) = true) :
        0 < deeds.count kind :=
      List.countP_pos_iff.2 ⟨member, List.mem_finRange _, by simp [Deeds.outcome?, hdeed, hkind]⟩
    cases answer with
    | none =>
      have : 0 < deeds.denials := hpos rfl
      omega
    | some v =>
      have : 0 < deeds.votes v := hpos (BEq.refl v)
      have := hvotes v
      omega

/-- The error of a call to some of the configured members, but not to none of them. -/
theorem tells_of_error {configured : Nat} (policy : op.policy = choice.policy)
    (isAlone_eq : op.isAlone = decide (configured = 1)) (pos : 0 < n) (le : n ≤ configured)
    (order : arrivals.Perm deeds.arrivals) (h : op.answer arrivals = .error failure) :
    Tells choice configured op deeds failure := by
  have hperm := op.failures_perm order
  have hballot := op.ballot_eq_of_error policy order h
  obtain ⟨hfail, hconclude⟩ | ⟨hmajority, hsome, reason, rfl⟩ := op.answer_error_cases policy h
  · rw [hballot] at hfail hconclude
    have all : deeds.AllFail := (Deeds.allFail_iff op order).2 hfail
    have hlength := hperm.length_eq.trans (op.length_causes all)
    generalize (op.reports arrivals ++ op.absences arrivals).filterMap Report.failure? = failures
      at hperm hconclude hlength
    by_cases hone : configured = 1
    · obtain ⟨⟨address, cause⟩, rfl⟩ := List.length_eq_one_iff.1 (hlength.trans (by omega))
      have hcauses := List.perm_singleton.1 hperm.symm
      obtain ⟨member, -, hmember⟩ := List.mem_filterMap.1 (hcauses ▸ List.mem_singleton_self _)
      obtain ⟨_, hcause, heq⟩ := Option.map_eq_some_iff.1 hmember
      cases heq
      simp only [conclude, isAlone_eq, hone, decide_true] at hconclude
      cases hconclude
      exact .bare member _ hone all hcauses hcause
    · simp only [conclude, isAlone_eq, decide_eq_false hone] at hconclude
      cases hconclude
      exact .aggregate failures hone all hperm hlength
  · rw [hballot] at hsome ⊢
    have hanswered : ¬ deeds.AllFail := by
      rw [Deeds.allFail_iff op order]
      obtain ⟨r, hr, hnone⟩ := hsome
      exact fun hall => hall r hr hnone
    subst hmajority
    refine .inconclusive reason _ (fun hone => hanswered ?_) rfl (Deeds.not_allFail_iff.1 hanswered)
      hperm
    exact op.allFail_of_single (Policy.isMajority_of_eq policy) order (by omega) h

end Operation

end Beacon
