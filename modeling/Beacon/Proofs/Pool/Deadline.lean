import Beacon.Proofs.Pool.Errors
import Beacon.Proofs.Pool.Timing

/-!
# What a call that fails at its deadline gives

A call that does not make do with the reports at its deadline decides by all its members, and those
without a report have failed. For a policy of majorities a silent member is a missing vote, so that
a call that was not settled by then ends with an error (`Policy.majority_select_append`). The policy
of the first value does not look at the number of members: among failures, a single report that
there is no such thing is its answer, however many members are silent.

* `Operation.isOverdue_answer` says what the result at the deadline is for both policies;
* `Dispatch.deadline_result` is the statement about whole calls;
* `Dispatch.deadline_denied` shows a call by the first value with two silent members of three, which
  ends at its deadline with the answer that there is no such thing.
-/

namespace Beacon

variable {n : Nat} {α : Type}

namespace Policy

variable [BEq α] {reports failed : List (Report α)} {dispatched : Nat}

/-- Reports that do not settle the policy of majorities leave it without an answer if everything
else is failures. -/
theorem majority_select_append
    (unsettled : (majority : Policy α).isSettled reports dispatched = false)
    (hfailed : ∀ r ∈ failed, ∃ cause, r.outcome = .failure cause) :
    ∃ failures, majority.select (reports ++ failed) dispatched = .failed failures ∨
      ∃ reason, majority.select (reports ++ failed) dispatched =
        .inconclusive reason failures := by
  have hvalues : (reports ++ failed).filterMap Report.value? = reports.filterMap Report.value? := by
    have hnone : failed.filterMap Report.value? = [] := by
      refine List.filterMap_eq_nil_iff.2 fun r hr => ?_
      obtain ⟨cause, hcause⟩ := hfailed r hr
      simp [Report.value?, hcause]
    rw [List.filterMap_append, hnone, List.append_nil]
  have hdenials : Report.denials (reports ++ failed) = Report.denials reports := by
    have hzero : Report.denials failed = 0 := by
      refine List.countP_eq_zero.2 fun r hr => ?_
      obtain ⟨cause, hcause⟩ := hfailed r hr
      simp [Outcome.isDenial, hcause]
    have happend : Report.denials (reports ++ failed) =
        Report.denials reports + Report.denials failed := List.countP_append
    omega
  simp only [majority, Bool.or_eq_false_iff, decide_eq_false_iff_not, Nat.not_le,
    Report.length_filter_isNotFound] at unsettled
  obtain ⟨⟨-, hdenied⟩, hvoted⟩ := unsettled
  -- whoever leads among the reports leads among all of them, with too few votes
  have minority : IsMinority (reports ++ failed) dispatched := by
    rw [isMinority_iff, hvalues]
    exact hvoted
  rw [majority_select_of_isMinority minority]
  rcases selectAbsent_cases (Tally.ofReports (reports ++ failed)) dispatched with
    ⟨hmany, -⟩ | ⟨-, ⟨-, -, hselect⟩ | ⟨-, hselect⟩⟩
  · rw [Tally.length_notFound_ofReports, hdenials] at hmany
    exact absurd hmany (Nat.not_le.2 hdenied)
  · exact ⟨_, .inl hselect⟩
  · exact ⟨_, .inr ⟨_, hselect⟩⟩

end Policy

/-- What the result of a call is whose deadline passes before its policy is settled. -/
structure IsOverdue (choice : Choice) (result : Except Failure (Option α)) (deeds : Deeds n α) :
    Prop where
  /-- It is no value. -/
  not_found : ∀ v, result ≠ .ok (some v)
  /-- It is that there is no such thing if and only if the first value is asked for and some member
  reports in time that there is none. -/
  notFound_iff : result = .ok none ↔
    choice = .firstSuccess ∧ ∃ m, deeds m = some (.result (.ok none))
  /-- It is an error if and only if a majority is asked for or no member reports that. -/
  error_iff : (∃ failure, result = .error failure) ↔
    choice = .majority ∨ ∀ m, deeds m ≠ some (.result (.ok none))

namespace Operation

variable (op : Operation n α) {deeds : Deeds n α} {arrivals : List (Arrival n α)}

/-- The deadline passes if and only if the reports received do not settle the policy and some member
goes on. -/
theorem isLate_iff (order : arrivals.Perm deeds.arrivals) :
    op.isLate arrivals = true ↔
      op.isSettledBy (op.received arrivals) = false ∧ ∃ m, deeds m = none := by
  rw [isLate_eq, Bool.and_eq_true, Bool.not_eq_true', decide_eq_true_iff,
    Deeds.length_lt_iff order]
  simp [Deeds.isPartial]

/-- At its deadline a call chooses from what its members report and from failures. -/
theorem ballot_eq_of_isLate (late : op.isLate arrivals = true) :
    op.isSettledBy arrivals = false ∧
      op.ballot arrivals = op.reports arrivals ++ op.absences arrivals := by
  have hall := op.received_eq_of_isLate late
  have hopen : op.isSettledBy arrivals = false := by
    rw [isLate_eq, hall, Bool.and_eq_true, Bool.not_eq_true'] at late
    exact late.1
  refine ⟨hopen, ?_⟩
  rw [ballot_eq, hall, hopen]
  rfl

/-- A call by majority ends with an error if its deadline passes. -/
theorem majority_answer_of_isLate [BEq α] (policy : op.policy = .majority)
    (fails : op.onDeadline = .fail) (late : op.isLate arrivals = true) :
    ∃ failure, op.answer arrivals = .error failure := by
  obtain ⟨hopen, hballot⟩ := op.ballot_eq_of_isLate late
  have hquorum : op.quorum arrivals = n := by simp [quorum_eq, fails]
  have habsent : ∀ r ∈ op.absences arrivals, ∃ cause, r.outcome = .failure cause := by
    intro r hr
    obtain ⟨member, -, rfl⟩ := List.mem_map.1 hr
    exact ⟨_, rfl⟩
  rw [isSettledBy, policy] at hopen
  unfold answer
  rw [policy, hquorum, hballot]
  obtain ⟨failures, hselect | ⟨reason, hselect⟩⟩ := Policy.majority_select_append hopen habsent
  · rw [hselect]
    obtain ⟨endpoint, cause, -, h⟩ | h := op.conclude_failed failures
    · exact ⟨cause, h⟩
    · exact ⟨_, h⟩
  · rw [hselect]
    exact ⟨_, rfl⟩

/-- A call by the first value receives none if its deadline passes. -/
theorem no_value_of_isLate (policy : op.policy = .firstSuccess)
    (late : op.isLate arrivals = true) : ∀ a ∈ arrivals, a.value? = none := by
  intro a ha
  by_contra hvalue
  obtain ⟨v, hv⟩ := Option.ne_none_iff_exists'.1 hvalue
  have hsettled := op.isSettledBy_of_value policy ha hv
  rw [(op.ballot_eq_of_isLate late).1] at hsettled
  cases hsettled

/-- What a call that fails at its deadline gives there. -/
theorem isOverdue_answer [BEq α] {choice : Choice} (policy : op.policy = choice.policy)
    (fails : op.onDeadline = .fail) (order : arrivals.Perm deeds.arrivals)
    (late : op.isLate arrivals = true) : IsOverdue choice (op.answer arrivals) deeds := by
  cases choice with
  | majority =>
    obtain ⟨failure, hanswer⟩ := op.majority_answer_of_isLate policy fails late
    rw [hanswer]
    exact ⟨nofun, ⟨nofun, nofun⟩, ⟨fun _ => .inl rfl, fun _ => ⟨failure, rfl⟩⟩⟩
  | firstSuccess =>
    have hfirst := op.isFirst_answer policy order
    have hno := (IsFirst.no_value_iff order).1
      (List.findSome?_eq_none_iff.2 (op.no_value_of_isLate policy late))
    refine ⟨fun v hv => ?_, ?_, ?_⟩
    · obtain ⟨m, w, hm⟩ := hfirst.exists_found_iff.1 ⟨v, hv⟩
      exact hno m w hm
    · rw [hfirst.notFound_iff]
      simp [hno]
    · rw [hfirst.error_iff]
      simp [hno]

end Operation

namespace Dispatch

variable {d : Dispatch α}

/-- **Failing at the deadline.** The deadline of a call that decides by all its members passes if
and only if the reports received do not settle its policy and some member goes on. Then the call
ends at its deadline, in whatever order its members end: never with a value, and by majority always
with an error. By the first value it ends with an error unless some member reports in time that
there is no such thing. Then that is the answer, although the silent members might know better. -/
theorem deadline_result [BEq α] {choice : Choice} (policy : d.policy = choice.policy)
    (fails : d.settings.onDeadline = .fail) :
    (d.toOperation.isLate d.arrivals = true → d.course.finish =
        d.deadline?.map fun deadline => (deadline, .result (d.toOperation.answer d.arrivals))) ∧
      ∀ arrivals, arrivals.Perm d.arrivals →
        (d.toOperation.isLate arrivals = true ↔
          d.toOperation.isSettledBy (d.toOperation.received arrivals) = false ∧
            ∃ m, d.deeds m = none) ∧
        (d.toOperation.isLate arrivals = true →
          IsOverdue choice (d.toOperation.answer arrivals) d.deeds) := by
  refine ⟨fun late => ?_, fun arrivals order => ?_⟩
  · simp only [course, finish?_of_isLate late]
  · have order := order.trans d.arrivals_perm
    exact ⟨d.toOperation.isLate_iff order, d.toOperation.isOverdue_answer policy fails order⟩

/-- A call to three members within 250 ms, two of which are silent. The third one reports that there
is no such thing. -/
def hushed (choice : Choice) : Dispatch Nat :=
  timed choice.policy { timeout := ⟨250000000⟩ }
    [("http://n0", none), ("http://n1", none), ("http://n2", some (20, .result (.ok none)))]

/-- By majority the call ends with an error. -/
theorem deadline_result_hushed :
    (hushed .majority).settings.onDeadline = .fail ∧
      (hushed .majority).toOperation.isLate (hushed .majority).deeds.arrivals = true ∧
      ∃ failure, (hushed .majority).toOperation.answer (hushed .majority).deeds.arrivals =
        .error failure := by
  have policy : (hushed .majority).policy = Choice.majority.policy := rfl
  obtain ⟨-, hresult⟩ := deadline_result policy rfl
  have late : (hushed .majority).toOperation.isLate (hushed .majority).deeds.arrivals = true := by
    decide
  exact ⟨rfl, late, ((hresult _ (arrivals_perm _).symm).2 late).error_iff.2 (.inl rfl)⟩

end Dispatch

/-- A pool of three nodes, two of which are silent. The third one knows of nothing. -/
def Pool.hushed : Pool where
  settings := { timeout := ⟨250000000⟩ }
  members :=
    [.single (.steady "http://n0" .all 0 none),
      .single (.steady "http://n1" .all 0 none),
      .single (.steady "http://n2" .all 20 (some (.result (.ok none))))]

/-- A call of the three nodes for the root of the finalized block. -/
def Dispatch.ofHushed : Dispatch Digest :=
  Pool.hushed.dispatch [] (.blockRoot "finalized") Choice.firstSuccess.policy

theorem Dispatch.arrivals_ofHushed :
    Dispatch.ofHushed.arrivals = [⟨⟨2, by decide⟩, .result (.ok none)⟩] :=
  List.perm_singleton.1 (arrivals_perm Dispatch.ofHushed)

/-- The deadline passes while two of three nodes are silent and the policy is not settled, and the
call ends with the answer that there is no such thing. -/
theorem Dispatch.deadline_denied :
    Dispatch.ofHushed.settings.onDeadline = .fail ∧
      Dispatch.ofHushed.toOperation.isSettledBy
        (Dispatch.ofHushed.toOperation.received Dispatch.ofHushed.arrivals) = false ∧
      Dispatch.ofHushed.deeds ⟨0, by decide⟩ = none ∧
      Dispatch.ofHushed.deeds ⟨1, by decide⟩ = none ∧
      ∃ moment, (Pool.hushed.call [] (.blockRoot "finalized") Choice.firstSuccess.policy).finish =
        some (moment, .result (.ok none)) := by
  have hanswer : Dispatch.ofHushed.toOperation.answer Dispatch.ofHushed.arrivals = .ok none := by
    rw [arrivals_ofHushed]
    rfl
  refine ⟨rfl, ?_, rfl, rfl, ?_⟩
  · rw [arrivals_ofHushed]
    rfl
  · rw [← hanswer]
    exact returns_answer (d := Dispatch.ofHushed) nofun

end Beacon
