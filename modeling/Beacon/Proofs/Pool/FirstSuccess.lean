import Beacon.Proofs.Pool.Collection
import Beacon.Proofs.Pool.Vote

/-!
# The first value

A call with the policy of the first value gives the first one that comes before the deadline, and
nothing that any member does before or after it changes that. If no value comes, the call has taken
notice of everything (`Operation.received_eq_of_no_value`), so that the order in which the members
end decides no more than the order of their failures.

* `IsFirst` says what a result has to be by what the members do and the order in which they end;
* `SameKind` compares results by kind, and errors by the failures of members in them;
* `Dispatch.firstSuccess_result` is the statement about whole calls.
-/

namespace Beacon

variable {n : Nat} {α : Type}

/-- What the policy of the first value chooses. -/
theorem Policy.firstSuccess_select (reports : List (Report α)) (quorum : Nat) :
    firstSuccess.select reports quorum =
      match reports.findSome? Report.value? with
      | some v => .found v
      | none =>
        if reports.any Report.isNotFound then .notFound
        else .failed (reports.filterMap Report.failure?) := by
  have hempty : (Tally.ofReports reports).notFound.isEmpty = !reports.any Report.isNotFound := by
    rw [Bool.eq_iff_iff]
    simp [Tally.ofReports, List.filter_eq_nil_iff]
  rw [← List.head?_filterMap, ← Tally.values_ofReports]
  simp only [firstSuccess, hempty]
  cases (Tally.ofReports reports).values with
  | nil => cases reports.any Report.isNotFound <;> rfl
  | cons v rest => rfl

/-- The policy of the first value is settled only by a value or if everyone has reported. -/
theorem Policy.firstSuccess_isSettled {reports : List (Report α)} {dispatched : Nat}
    (h : (firstSuccess : Policy α).isSettled reports dispatched = true) :
    dispatched ≤ reports.length ∨ ∃ v, v ∈ reports.filterMap Report.value? := by
  simp only [firstSuccess, Bool.or_eq_true, decide_eq_true_eq, List.any_eq_true] at h
  refine h.imp_right ?_
  rintro ⟨⟨endpoint, outcome⟩, hr, hsuccess⟩
  cases outcome with
  | success v => exact ⟨v, List.mem_filterMap.2 ⟨_, hr, rfl⟩⟩
  | notFound => cases hsuccess
  | failure cause => cases hsuccess

namespace Operation

variable (op : Operation n α) {arrivals arrivals' : List (Arrival n α)}

theorem any_isNotFound_reports :
    (op.reports arrivals).any Report.isNotFound = true ↔
      ∃ a ∈ arrivals, a.ending = .result (.ok none) := by
  simp only [reports, List.any_filterMap, List.any_eq_true]
  refine exists_congr fun a => and_congr_right fun _ => ?_
  obtain ⟨member, (_ | (_ | v)) | _⟩ := a <;> simp [Outcome.ofResult, Report.isNotFound]

theorem any_isNotFound_ballot :
    (op.ballot arrivals).any Report.isNotFound =
      (op.reports (op.received arrivals)).any Report.isNotFound := by
  rw [ballot_eq, List.any_append]
  split <;> simp [absences, Report.isNotFound]

/-- What settles the policy without a value is that everyone has reported. -/
theorem length_le_of_no_value (policy : op.policy = .firstSuccess)
    (hs : op.isSettledBy arrivals = true) (h : arrivals.findSome? Arrival.value? = none) :
    n ≤ (op.reports arrivals).length := by
  rw [isSettledBy, policy] at hs
  rcases Policy.firstSuccess_isSettled hs with hall | ⟨v, hv⟩
  · exact hall
  · rw [filterMap_value?_reports] at hv
    obtain ⟨a, ha, hav⟩ := List.mem_filterMap.1 hv
    rw [List.findSome?_eq_none_iff.1 h a ha] at hav
    cases hav

/-- If no value is received, nothing is left out. -/
theorem received_eq_of_no_value (policy : op.policy = .firstSuccess)
    (once : (arrivals.map Arrival.member).Nodup)
    (h : (op.received arrivals).findSome? Arrival.value? = none) :
    op.received arrivals = arrivals := by
  cases hs : op.isSettledBy (op.received arrivals) with
  | false => exact op.received_eq hs
  | true => exact op.received_eq_of_length_le once (op.length_le_of_no_value policy hs h)

/-- The first value received is the first one that comes. -/
theorem findSome?_received (policy : op.policy = .firstSuccess)
    (once : (arrivals.map Arrival.member).Nodup) :
    (op.received arrivals).findSome? Arrival.value? = arrivals.findSome? Arrival.value? := by
  cases h : (op.received arrivals).findSome? Arrival.value? with
  | none => rw [← op.received_eq_of_no_value policy once h, h]
  | some v =>
    obtain ⟨rest, hrest⟩ := op.received_prefix arrivals
    rw [← hrest, List.findSome?_append, h]
    rfl

/-- If no value comes, nothing is left out. -/
theorem received_eq_of_none (policy : op.policy = .firstSuccess)
    (once : (arrivals.map Arrival.member).Nodup)
    (h : arrivals.findSome? Arrival.value? = none) : op.received arrivals = arrivals :=
  op.received_eq_of_no_value policy once (by rw [op.findSome?_received policy once, h])

/-- A value settles the policy. -/
theorem isSettledBy_of_value (policy : op.policy = .firstSuccess) {a : Arrival n α} {v : α}
    (h : a ∈ arrivals) (ha : a.value? = some v) : op.isSettledBy arrivals = true := by
  have hvalue : v ∈ (op.reports arrivals).filterMap Report.value? := by
    rw [filterMap_value?_reports]
    exact List.mem_filterMap.2 ⟨a, h, ha⟩
  obtain ⟨report, hreport, hv⟩ := List.mem_filterMap.1 hvalue
  rw [isSettledBy, policy]
  refine Bool.or_eq_true_iff.2 (.inr (List.any_eq_true.2 ⟨report, hreport, ?_⟩))
  unfold Report.value? at hv
  unfold Report.isSuccess
  split at hv
  · rfl
  · cases hv

/-- A call takes notice of nothing after the first value that comes. -/
theorem received_eq_of_first (policy : op.policy = .firstSuccess)
    {before after : List (Arrival n α)} {a : Arrival n α} {v : α}
    (h : arrivals = before ++ a :: after) (ha : a.value? = some v)
    (hbefore : ∀ b ∈ before, b.value? = none) (once : (arrivals.map Arrival.member).Nodup) :
    op.received arrivals = before ++ [a] := by
  have hfirst : before ++ [a] <+: arrivals := ⟨after, by simp [h]⟩
  have hsettled : op.isSettledBy (before ++ [a]) = true :=
    op.isSettledBy_of_value policy (List.mem_append_right before (List.mem_singleton_self a)) ha
  rcases List.prefix_or_prefix_of_prefix hfirst (op.received_prefix arrivals) with hle | hle
  · by_contra hne
    rw [op.isSettledBy_of_prefix hle (Ne.symm hne)] at hsettled
    cases hsettled
  · rcases List.prefix_concat_iff.1 hle with heq | hle
    · exact heq
    · -- before the first value there is none, but a call takes notice of one if there is one
      have hsome := op.findSome?_received policy once
      rw [List.findSome?_eq_none_iff.2 fun b hb => hbefore b (hle.subset hb), h,
        List.findSome?_append, List.findSome?_cons, ha,
        List.findSome?_eq_none_iff.2 hbefore] at hsome
      cases hsome

/-- What a call by the first value gives. -/
theorem firstSuccess_answer (policy : op.policy = .firstSuccess)
    (once : (arrivals.map Arrival.member).Nodup) :
    op.answer arrivals =
      match arrivals.findSome? Arrival.value? with
      | some v => .ok (some v)
      | none =>
        if (op.reports arrivals).any Report.isNotFound then .ok none
        else op.conclude (.failed ((op.ballot arrivals).filterMap Report.failure?)) := by
  unfold answer
  rw [policy, Policy.firstSuccess_select, ← List.head?_filterMap, filterMap_value?_ballot,
    List.head?_filterMap, any_isNotFound_ballot]
  rw [← op.findSome?_received policy once]
  cases h : (op.received arrivals).findSome? Arrival.value? with
  | some v => rfl
  | none =>
    rw [op.received_eq_of_no_value policy once h]
    simp only
    split <;> rfl

/-! ### Orders of arrival -/

/-- The failures of silent members do not depend on the order. -/
theorem absences_perm (order : arrivals.Perm arrivals') :
    op.absences arrivals = op.absences arrivals' := by
  have hreporters := (order.filter Arrival.hasReport).map Arrival.member
  have hsilent : Arrival.silent arrivals = Arrival.silent arrivals' := by
    refine List.filter_congr fun member _ => ?_
    rw [decide_eq_decide]
    exact not_congr hreporters.mem_iff
  rw [absences, absences, hsilent, order.length_eq]

/-- If no value comes, the policy chooses from the same reports, whatever their order. -/
theorem ballot_perm (policy : op.policy = .firstSuccess)
    (once : (arrivals.map Arrival.member).Nodup) (order : arrivals.Perm arrivals')
    (h : arrivals.findSome? Arrival.value? = none) :
    (op.ballot arrivals).Perm (op.ballot arrivals') := by
  have once' : (arrivals'.map Arrival.member).Nodup := (order.map _).nodup_iff.1 once
  have h' : arrivals'.findSome? Arrival.value? = none := by
    rw [List.findSome?_eq_none_iff] at h ⊢
    exact fun a ha => h a (order.mem_iff.2 ha)
  have hall := op.received_eq_of_none policy once h
  have hall' := op.received_eq_of_none policy once' h'
  have hreports : (op.reports arrivals).Perm (op.reports arrivals') := order.filterMap _
  -- the policy only asks how many reports there are and whether one of them is a value
  have hsettled : op.isSettledBy arrivals = op.isSettledBy arrivals' := by
    rw [isSettledBy, isSettledBy, policy, Bool.eq_iff_iff]
    simp [Policy.firstSuccess, hreports.length_eq, hreports.mem_iff]
  rw [ballot_eq, ballot_eq, hall, hall', hsettled, op.absences_perm order]
  exact hreports.append_right _

end Operation

/-- A result is the first value that comes. If none comes, it is that there is no such thing if some
member reports that, and an error otherwise. -/
structure IsFirst (result : Except Failure (Option α)) (deeds : Deeds n α)
    (arrivals : List (Arrival n α)) : Prop where
  /-- It is a value if and only if this value is the first one that comes. -/
  found_iff : ∀ v, result = .ok (some v) ↔ ∃ before a after, arrivals = before ++ a :: after ∧
    a.ending = .result (.ok (some v)) ∧ ∀ b ∈ before, b.value? = none
  /-- It is some value if and only if some member reports one. -/
  exists_found_iff : (∃ v, result = .ok (some v)) ↔
    ∃ m v, deeds m = some (.result (.ok (some v)))
  /-- It is that there is no such thing if and only if this is the best that members report. -/
  notFound_iff : result = .ok none ↔ (∀ m v, deeds m ≠ some (.result (.ok (some v)))) ∧
    ∃ m, deeds m = some (.result (.ok none))
  /-- It is an error if and only if no member reports anything but failures. -/
  error_iff : (∃ failure, result = .error failure) ↔
    (∀ m v, deeds m ≠ some (.result (.ok (some v)))) ∧ ∀ m, deeds m ≠ some (.result (.ok none))

/-- Two failures are the same, or name the same failures of members in some order. -/
def SameCauses (failure failure' : Failure) : Prop :=
  failure = failure' ∨ ∃ operation causes causes', causes.Perm causes' ∧
    failure = .aggregate operation causes ∧ failure' = .aggregate operation causes'

/-- Two results are both values, both nothing, or errors with the same causes. -/
def SameKind : Except Failure (Option α) → Except Failure (Option α) → Prop
  | .ok (some _), .ok (some _) => True
  | .ok none, .ok none => True
  | .error failure, .error failure' => SameCauses failure failure'
  | _, _ => False

namespace IsFirst

variable {deeds : Deeds n α} {arrivals : List (Arrival n α)}

theorem no_value_iff (order : arrivals.Perm deeds.arrivals) :
    arrivals.findSome? Arrival.value? = none ↔
      ∀ m v, deeds m ≠ some (.result (.ok (some v))) := by
  rw [List.findSome?_eq_none_iff]
  constructor
  · intro h m v hm
    have hv := h ⟨m, _⟩ ((Deeds.mem_of_perm order).2 hm)
    cases hv
  · intro h a ha
    cases hv : a.value? with
    | none => rfl
    | some v =>
      have ha := (Deeds.mem_of_perm order).1 ha
      rw [Arrival.value?_eq_some.1 hv] at ha
      exact absurd ha (h a.member v)

theorem first_value_iff {v : α} :
    arrivals.findSome? Arrival.value? = some v ↔
      ∃ before a after, arrivals = before ++ a :: after ∧
        a.ending = .result (.ok (some v)) ∧ ∀ b ∈ before, b.value? = none := by
  simp only [List.findSome?_eq_some_iff, Arrival.value?_eq_some]

/-- Some value comes first. -/
theorem of_value (order : arrivals.Perm deeds.arrivals) {v : α}
    (h : arrivals.findSome? Arrival.value? = some v) :
    IsFirst (.ok (some v)) deeds arrivals := by
  have hsome : ¬ ∀ m w, deeds m ≠ some (.result (.ok (some w))) := by
    intro hno
    rw [(no_value_iff order).2 hno] at h
    cases h
  refine ⟨fun w => ?_, ?_, ?_, ?_⟩
  · rw [← first_value_iff, h]
    simp
  · simpa using hsome
  · exact ⟨nofun, fun hno => absurd hno.1 hsome⟩
  · exact ⟨nofun, fun hno => absurd hno.1 hsome⟩

/-- No value comes, but some member reports that there is no such thing. -/
theorem of_notFound (order : arrivals.Perm deeds.arrivals)
    (h : arrivals.findSome? Arrival.value? = none)
    (hdenied : ∃ m, deeds m = some (.result (.ok none))) : IsFirst (.ok none) deeds arrivals := by
  have hno := (no_value_iff order).1 h
  refine ⟨fun w => ?_, ?_, ?_, ?_⟩
  · rw [← first_value_iff, h]
    simp
  · simpa using hno
  · exact ⟨fun _ => ⟨hno, hdenied⟩, fun _ => rfl⟩
  · obtain ⟨m, hm⟩ := hdenied
    exact ⟨nofun, fun hall => absurd hm (hall.2 m)⟩

/-- No member reports anything but failures. -/
theorem of_error (order : arrivals.Perm deeds.arrivals)
    (h : arrivals.findSome? Arrival.value? = none)
    (hdenied : ∀ m, deeds m ≠ some (.result (.ok none))) (failure : Failure) :
    IsFirst (.error failure) deeds arrivals := by
  have hno := (no_value_iff order).1 h
  refine ⟨fun w => ?_, ?_, ?_, ?_⟩
  · rw [← first_value_iff, h]
    simp
  · simpa using hno
  · exact ⟨nofun, fun hall => absurd hall.2 (not_exists.2 hdenied)⟩
  · exact ⟨fun _ => ⟨hno, hdenied⟩, fun _ => ⟨failure, rfl⟩⟩

end IsFirst

namespace Operation

variable (op : Operation n α) {deeds : Deeds n α} {arrivals arrivals' : List (Arrival n α)}

theorem sameCauses_conclude {failures failures' : List MemberFailure}
    (h : failures.Perm failures') :
    ∃ failure failure', op.conclude (.failed failures) = .error failure ∧
      op.conclude (.failed failures') = .error failure' ∧ SameCauses failure failure' := by
  rcases op.conclude_failed failures with ⟨endpoint, cause, rfl, hbare⟩ | hall
  · cases List.singleton_perm.1 h
    exact ⟨cause, cause, hbare, hbare, .inl rfl⟩
  · rcases op.conclude_failed failures' with ⟨endpoint, cause, rfl, hbare⟩ | hall'
    · cases List.perm_singleton.1 h
      exact ⟨cause, cause, hbare, hbare, .inl rfl⟩
    · exact ⟨_, _, hall, hall', .inr ⟨op.name, failures, failures', h, rfl, rfl⟩⟩

theorem any_isNotFound_reports_iff (order : arrivals.Perm deeds.arrivals) :
    (op.reports arrivals).any Report.isNotFound = true ↔
      ∃ m, deeds m = some (.result (.ok none)) := by
  rw [any_isNotFound_reports, Deeds.exists_ending_iff order]

theorem isFirst_answer (policy : op.policy = .firstSuccess) (order : arrivals.Perm deeds.arrivals) :
    IsFirst (op.answer arrivals) deeds arrivals := by
  rw [op.firstSuccess_answer policy (Deeds.nodup_of_perm order)]
  cases h : arrivals.findSome? Arrival.value? with
  | some v => exact .of_value order h
  | none =>
    simp only
    split
    · next hdenied => exact .of_notFound order h ((op.any_isNotFound_reports_iff order).1 hdenied)
    · next hdenied =>
      obtain ⟨failure, -, hfailed, -⟩ := op.sameCauses_conclude
        (List.Perm.refl ((op.ballot arrivals).filterMap Report.failure?))
      rw [hfailed]
      rw [op.any_isNotFound_reports_iff order, not_exists] at hdenied
      exact .of_error order h hdenied failure

/-- Two orders of the same deeds lead to results of the same kind. -/
theorem sameKind_answer (policy : op.policy = .firstSuccess)
    (order : arrivals.Perm deeds.arrivals) (order' : arrivals'.Perm deeds.arrivals) :
    SameKind (op.answer arrivals) (op.answer arrivals') := by
  have once := Deeds.nodup_of_perm order
  have hnone :=
    (IsFirst.no_value_iff order).trans (IsFirst.no_value_iff order').symm
  have hdenied : (op.reports arrivals).any Report.isNotFound =
      (op.reports arrivals').any Report.isNotFound := by
    rw [Bool.eq_iff_iff, op.any_isNotFound_reports_iff order, op.any_isNotFound_reports_iff order']
  rw [op.firstSuccess_answer policy once,
    op.firstSuccess_answer policy (Deeds.nodup_of_perm order'), hdenied]
  cases h : arrivals.findSome? Arrival.value? with
  | some v =>
    cases h' : arrivals'.findSome? Arrival.value? with
    | some v' => trivial
    | none => rw [hnone.2 h'] at h; cases h
  | none =>
    rw [hnone.1 h]
    simp only
    split
    · trivial
    · -- only here the order is visible, in the order of the failures
      have hballot := op.ballot_perm policy once (order.trans order'.symm) h
      obtain ⟨failure, failure', hfailed, hfailed', hsame⟩ :=
        op.sameCauses_conclude (hballot.filterMap Report.failure?)
      rw [hfailed, hfailed']
      exact hsame

end Operation

namespace Dispatch

variable {d : Dispatch α}

/-- **The first value.** A call by the first value gives a result. In whatever order its members
end, the result is the first value that comes by the deadline, whatever any other member does; the
order does not matter to anything else but the order of failures. -/
theorem firstSuccess_result (policy : d.policy = .firstSuccess) (bounded : d.IsBounded) :
    d.Returns (d.toOperation.answer d.arrivals) ∧
      ∀ arrivals, arrivals.Perm d.arrivals →
        IsFirst (d.toOperation.answer arrivals) d.deeds arrivals ∧
          ∀ arrivals', arrivals'.Perm d.arrivals →
            SameKind (d.toOperation.answer arrivals) (d.toOperation.answer arrivals') :=
  ⟨returns_answer bounded, fun _ order =>
    ⟨d.toOperation.isFirst_answer policy (order.trans d.arrivals_perm), fun _ order' =>
      d.toOperation.sameKind_answer policy (order.trans d.arrivals_perm)
        (order'.trans d.arrivals_perm)⟩⟩

/-- Some value comes first; in the order of the members it is seven. -/
theorem firstSuccess_result_quintet :
    (quintet .firstSuccess .fail 30).IsBounded ∧
      (∃ v, (quintet .firstSuccess .fail 30).Returns (.ok (some v))) ∧
      (quintet .firstSuccess .fail 30).toOperation.answer
        (quintet .firstSuccess .fail 30).deeds.arrivals = .ok (some 7) := by
  have bounded : (quintet .firstSuccess .fail 30).IsBounded := nofun
  obtain ⟨hreturns, hfirst⟩ :=
    firstSuccess_result (d := quintet .firstSuccess .fail 30) rfl bounded
  refine ⟨bounded, ?_, ?_⟩
  · obtain ⟨v, hv⟩ := (hfirst _ (.refl _)).1.exists_found_iff.2 ⟨⟨1, by decide⟩, 7, rfl⟩
    rw [hv] at hreturns
    exact ⟨v, hreturns⟩
  · exact ((hfirst _ (arrivals_perm _).symm).1.found_iff 7).2
      ⟨[⟨⟨0, by decide⟩, .died⟩], ⟨⟨1, by decide⟩, .result (.ok (some 7))⟩,
        (quintet .firstSuccess .fail 30).deeds.arrivals.drop 2, rfl, rfl,
        by simp [Arrival.value?]⟩

end Dispatch

end Beacon
