import Beacon.Proofs.Pool.Deeds

/-!
# The loop of a call

The loop takes notice of the ends of tasks one by one. `Operation.Gathers` is its invariant: the
tray holds what the ends seen so far bring, and no fewer of them settled the policy. One turn keeps
it (`Operation.Gathers.join`), so that it holds when the loop is over (`Operation.collect_cases`).
What is read off there:

* `Operation.isSettledBy_of_prefix` and `Operation.received_eq`: the loop ends with the first end of
  a task that settles the policy, or with the last of all;
* `Operation.isLate_eq`: the deadline passes if and only if the policy is not settled and some task
  goes on;
* `Operation.ballot_eq` and `Operation.quorum_eq`: what the policy is given to choose from.

`Dispatch.exists_collects` puts this together for whole calls.
-/

namespace Beacon

namespace Arrival

variable {n : Nat} {α : Type}

/-- Whether a task ends with a report. -/
def hasReport (a : Arrival n α) : Bool :=
  match a.ending with
  | .result _ => true
  | .died => false

@[simp] theorem report?_result (address : Fin n → String) (member : Fin n)
    (result : Except Failure (Option α)) :
    report? address ⟨member, .result result⟩ = some ⟨address member, .ofResult result⟩ := rfl

@[simp] theorem report?_died (address : Fin n → String) (member : Fin n) :
    report? address (⟨member, .died⟩ : Arrival n α) = none := rfl

@[simp] theorem hasReport_result (member : Fin n) (result : Except Failure (Option α)) :
    hasReport ⟨member, .result result⟩ = true := rfl

@[simp] theorem hasReport_died (member : Fin n) :
    hasReport (⟨member, .died⟩ : Arrival n α) = false := rfl

/-- The value that a task ends with, if it does. -/
def value? (a : Arrival n α) : Option α :=
  match a.ending with
  | .result (.ok value) => value
  | _ => none

theorem value?_eq_some {a : Arrival n α} {v : α} :
    a.value? = some v ↔ a.ending = .result (.ok (some v)) := by
  obtain ⟨member, (_ | (_ | v')) | _⟩ := a <;> simp [value?]

theorem value?_report? (address : Fin n → String) (a : Arrival n α) :
    (a.report? address).bind Report.value? = a.value? := by
  obtain ⟨member, (_ | (_ | v')) | _⟩ := a <;> rfl

/-- The members whose tasks end with a report. -/
def reporters (arrivals : List (Arrival n α)) : List (Fin n) :=
  (arrivals.filter hasReport).map Arrival.member

/-- The other members, in order. -/
def silent (arrivals : List (Arrival n α)) : List (Fin n) :=
  (List.finRange n).filter fun member => member ∉ reporters arrivals

theorem nodup_reporters {arrivals : List (Arrival n α)}
    (once : (arrivals.map Arrival.member).Nodup) : (reporters arrivals).Nodup :=
  (List.filter_sublist.map Arrival.member).nodup once

/-- Every member reports or is silent. -/
theorem reporters_append_silent_perm {arrivals : List (Arrival n α)}
    (once : (arrivals.map Arrival.member).Nodup) :
    (reporters arrivals ++ silent arrivals).Perm (List.finRange n) := by
  have hsilent : (silent arrivals).Nodup := (List.nodup_finRange n).filter _
  have hdisjoint : (reporters arrivals).Disjoint (silent arrivals) := by
    intro member hmem hsil
    simp [silent, hmem] at hsil
  refine (List.perm_ext_iff_of_nodup
    ((nodup_reporters once).append hsilent hdisjoint) (List.nodup_finRange n)).2 fun member => ?_
  by_cases h : member ∈ reporters arrivals <;> simp [silent, h]

end Arrival

namespace Tray

variable {n : Nat} {α : Type} (tray : Tray n α)

@[simp] theorem hasReported_empty (member : Fin n) :
    (empty : Tray n α).hasReported member = false := by
  simp [hasReported, empty]

/-- The flag of a member that reports is set, and no other. -/
@[simp] theorem hasReported_join (address : Fin n → String) (a : Arrival n α) (member : Fin n) :
    (tray.join address a).hasReported member =
      (tray.hasReported member || (a.hasReport && member = a.member)) := by
  obtain ⟨reporter, result | _⟩ := a
  · by_cases heq : member = reporter
    · simp [hasReported, join, heq]
    · have hval : (reporter : Nat) ≠ member := fun hv => heq (Fin.ext hv.symm)
      simp [hasReported, join, heq, Vector.getElem_set_ne, hval]
  · simp [hasReported, join]

@[simp] theorem hasReported_giveUp (member : Fin n) :
    tray.giveUp.hasReported member = tray.hasReported member := rfl

end Tray

namespace Operation

variable {n : Nat} {α : Type} (op : Operation n α)

/-- The reports that come with the ends of tasks, each with the address of its member. -/
def reports (arrivals : List (Arrival n α)) : List (Report α) :=
  arrivals.filterMap (Arrival.report? op.address)

/-- Whether the policy is settled by the reports that come with the ends of tasks. -/
def isSettledBy (arrivals : List (Arrival n α)) : Bool :=
  op.policy.isSettled (op.reports arrivals) n

theorem map_endpoint_reports (arrivals : List (Arrival n α)) :
    (op.reports arrivals).map Report.endpoint =
      (Arrival.reporters arrivals).map op.address := by
  induction arrivals with
  | nil => rfl
  | cons a rest ih =>
    obtain ⟨member, ending⟩ := a
    cases ending <;>
      simpa [reports, Arrival.reporters, List.filterMap_cons, List.filter_cons] using ih

theorem filterMap_value?_reports (arrivals : List (Arrival n α)) :
    (op.reports arrivals).filterMap Report.value? = arrivals.filterMap Arrival.value? := by
  simp [reports, List.filterMap_filterMap, Arrival.value?_report?]

/-! ### The invariant -/

/-- A tray holds what the ends of tasks in `seen` bring, and no fewer of them settle the policy. -/
structure Gathers (seen : List (Arrival n α)) (tray : Tray n α) : Prop where
  reports_eq : tray.reports = op.reports seen
  reported_iff : ∀ member, tray.hasReported member = true ↔ member ∈ Arrival.reporters seen
  ended_eq : tray.ended = seen.length
  waits_eq : tray.waits = seen.length
  isLate_eq : tray.isLate = false
  unsettled : ∀ earlier, earlier <+: seen → earlier ≠ seen → op.isSettledBy earlier = false

theorem gathers_empty : op.Gathers [] .empty where
  reports_eq := rfl
  reported_iff member := by simp [Arrival.reporters]
  ended_eq := rfl
  waits_eq := rfl
  isLate_eq := rfl
  unsettled earlier hpre hne := absurd (List.prefix_nil.1 hpre) hne

variable {op}

/-- One turn of the loop keeps the invariant. -/
theorem Gathers.join {seen : List (Arrival n α)} {tray : Tray n α} (h : op.Gathers seen tray)
    (open_ : op.isSettledBy seen = false) (a : Arrival n α) :
    op.Gathers (seen ++ [a]) (tray.join op.address a) := by
  have hunsettled : ∀ earlier, earlier <+: seen ++ [a] → earlier ≠ seen ++ [a] →
      op.isSettledBy earlier = false := by
    intro earlier hpre hne
    rcases List.prefix_concat_iff.1 hpre with rfl | hpre
    · exact absurd rfl hne
    · by_cases heq : earlier = seen
      · rw [heq, open_]
      · exact h.unsettled earlier hpre heq
  obtain ⟨member, ending⟩ := a
  cases ending with
  | died =>
    refine ⟨?_, fun m => ?_, ?_, ?_, h.isLate_eq, hunsettled⟩
    · simp [Tray.join, reports, List.filterMap_cons, h.reports_eq]
    · simpa [Arrival.reporters, List.filter_cons] using h.reported_iff m
    · simp [Tray.join, h.ended_eq]
    · simp [Tray.join, h.waits_eq]
  | result result =>
    refine ⟨?_, fun m => ?_, ?_, ?_, h.isLate_eq, hunsettled⟩
    · simp [Tray.join, reports, h.reports_eq]
    · rw [Tray.hasReported_join, Bool.or_eq_true, h.reported_iff]
      simp [Arrival.reporters, List.filter_cons]
    · simp [Tray.join, h.ended_eq]
    · simp [Tray.join, h.waits_eq]

/-- What holds when the loop is over: either the policy is settled, or there is nothing left and the
call has given up. -/
theorem Gathers.collect_cases {seen : List (Arrival n α)} {tray : Tray n α}
    (h : op.Gathers seen tray) (arrivals : List (Arrival n α)) :
    ∃ taken last, taken <+: seen ++ arrivals ∧ op.Gathers taken last ∧
      (op.isSettledBy taken = true ∧ op.collect tray arrivals = last ∨
        op.isSettledBy taken = false ∧ taken = seen ++ arrivals ∧
          op.collect tray arrivals = last.giveUp) := by
  have htest : op.policy.isSettled tray.reports n = op.isSettledBy seen := by
    rw [isSettledBy, h.reports_eq]
  -- induction on what is left, for any tray that holds what was seen before
  induction arrivals generalizing seen tray with
  | nil =>
    refine ⟨seen, tray, List.prefix_append .., h, ?_⟩
    cases hs : op.isSettledBy seen with
    | true => exact .inl ⟨rfl, by simp [collect, htest, hs]⟩
    | false => exact .inr ⟨rfl, by simp, by simp [collect, htest, hs]⟩
  | cons a rest ih =>
    cases hs : op.isSettledBy seen with
    | true =>
      exact ⟨seen, tray, List.prefix_append .., h, .inl ⟨hs, by simp [collect, htest, hs]⟩⟩
    | false =>
      have hnext := h.join hs a
      obtain ⟨taken, last, hpre, hlast, hend⟩ := ih hnext (by rw [isSettledBy, hnext.reports_eq])
      refine ⟨taken, last, by simpa using hpre, hlast, ?_⟩
      simpa [collect, htest, hs] using hend

variable (op) (arrivals : List (Arrival n α))

/-! ### The end of the loop -/

/-- What holds when the loop is over, by the ends of tasks that the call has taken notice of. -/
theorem tray_cases :
    ∃ last, op.received arrivals <+: arrivals ∧ op.Gathers (op.received arrivals) last ∧
      (op.isSettledBy (op.received arrivals) = true ∧ op.tray arrivals = last ∨
        op.isSettledBy (op.received arrivals) = false ∧ op.received arrivals = arrivals ∧
          op.tray arrivals = last.giveUp) := by
  obtain ⟨taken, last, hpre, hlast, hend⟩ := op.gathers_empty.collect_cases arrivals
  rw [List.nil_append] at hpre hend
  have hended : (op.tray arrivals).ended = taken.length := by
    rcases hend with ⟨-, h⟩ | ⟨-, -, h⟩ <;> simp [tray, h, Tray.giveUp, hlast.ended_eq]
  have htaken : op.received arrivals = taken := by
    rw [received, hended]
    exact (List.prefix_iff_eq_take.1 hpre).symm
  rw [htaken]
  exact ⟨last, hpre, hlast, hend⟩

theorem received_prefix : op.received arrivals <+: arrivals := List.take_prefix ..

variable {arrivals}

/-- Before the last end of a task that the call takes notice of, its policy is not settled. -/
theorem isSettledBy_of_prefix {earlier : List (Arrival n α)}
    (hpre : earlier <+: op.received arrivals) (hne : earlier ≠ op.received arrivals) :
    op.isSettledBy earlier = false := by
  obtain ⟨last, -, hlast, -⟩ := op.tray_cases arrivals
  exact hlast.unsettled earlier hpre hne

/-- If the policy is not settled in the end, the call has taken notice of everything. -/
theorem received_eq (h : op.isSettledBy (op.received arrivals) = false) :
    op.received arrivals = arrivals := by
  obtain ⟨last, -, -, ⟨hs, -⟩ | ⟨-, heq, -⟩⟩ := op.tray_cases arrivals
  · rw [h] at hs; cases hs
  · exact heq

/-- If the deadline passes, the call has taken notice of everything. -/
theorem received_eq_of_isLate (late : op.isLate arrivals = true) :
    op.received arrivals = arrivals := by
  obtain ⟨last, -, hlast, ⟨-, h⟩ | ⟨-, heq, -⟩⟩ := op.tray_cases arrivals
  · rw [isLate, h, hlast.isLate_eq] at late
    cases late
  · exact heq

/-- If everyone has reported, nothing is left out. -/
theorem received_eq_of_length_le (once : (arrivals.map Arrival.member).Nodup)
    (h : n ≤ (op.reports (op.received arrivals)).length) : op.received arrivals = arrivals := by
  refine (op.received_prefix arrivals).eq_of_length_le ?_
  calc arrivals.length ≤ n := Arrival.length_le once
    _ ≤ (op.reports (op.received arrivals)).length := h
    _ ≤ (op.received arrivals).length := List.length_filterMap_le ..

variable (arrivals)

theorem reports_tray : (op.tray arrivals).reports = op.reports (op.received arrivals) := by
  obtain ⟨last, -, hlast, ⟨-, h⟩ | ⟨-, -, h⟩⟩ := op.tray_cases arrivals <;>
    simp [h, Tray.giveUp, hlast.reports_eq]

theorem silent_tray : (op.tray arrivals).silent = Arrival.silent (op.received arrivals) := by
  obtain ⟨last, -, hlast, hend⟩ := op.tray_cases arrivals
  have hreported (member : Fin n) :
      (op.tray arrivals).hasReported member = last.hasReported member := by
    rcases hend with ⟨-, h⟩ | ⟨-, -, h⟩ <;> simp [h]
  unfold Tray.silent Arrival.silent
  refine List.filter_congr fun member _ => ?_
  rw [hreported]
  by_cases hm : member ∈ Arrival.reporters (op.received arrivals)
  · simp [hm, (hlast.reported_iff member).2 hm]
  · simpa [hm] using mt (hlast.reported_iff member).1 hm

/-- The deadline passes if and only if the policy is not settled and some task goes on. -/
theorem isLate_eq :
    op.isLate arrivals =
      (!op.isSettledBy (op.received arrivals) && decide (arrivals.length < n)) := by
  obtain ⟨last, -, hlast, ⟨hs, h⟩ | ⟨hs, heq, h⟩⟩ := op.tray_cases arrivals
  · simp [isLate, h, hs, hlast.isLate_eq]
  · rw [hs, ← congrArg List.length heq, ← hlast.ended_eq]
    simp [isLate, h, Tray.giveUp]

/-- The call waits once for each end of a task that it takes notice of, and once more in vain if its
policy is not settled by then. -/
theorem waits_tray :
    (op.tray arrivals).waits =
      (op.received arrivals).length +
        if op.isSettledBy (op.received arrivals) then 0 else 1 := by
  obtain ⟨last, -, hlast, ⟨hs, h⟩ | ⟨hs, -, h⟩⟩ := op.tray_cases arrivals <;>
    simp [h, hs, Tray.giveUp, hlast.waits_eq]

/-- The failures of the members without a report. -/
def absences : List (Report α) :=
  (Arrival.silent arrivals).map fun member =>
    ⟨op.address member, .failure (op.absence (arrivals.length < n) member)⟩

theorem ballot_eq :
    op.ballot arrivals = op.reports (op.received arrivals) ++
      if op.isSettledBy (op.received arrivals) then [] else op.absences arrivals := by
  have htest : op.policy.isSettled (op.reports (op.received arrivals)) n =
      op.isSettledBy (op.received arrivals) := rfl
  have hlate : (op.tray arrivals).isLate = op.isLate arrivals := rfl
  simp only [ballot, reports_tray, htest, silent_tray, hlate, isLate_eq]
  cases hs : op.isSettledBy (op.received arrivals) with
  | true => simp
  | false => simp [absences, op.received_eq hs]

theorem quorum_eq :
    op.quorum arrivals =
      if op.isLate arrivals = true ∧ op.onDeadline = .bestEffort then
        (op.reports (op.received arrivals)).length
      else n := by
  simp only [quorum, reports_tray]
  rfl

/-- The failures of silent members bring no values. -/
theorem filterMap_value?_ballot :
    (op.ballot arrivals).filterMap Report.value? =
      (op.received arrivals).filterMap Arrival.value? := by
  rw [ballot_eq, List.filterMap_append, filterMap_value?_reports]
  split <;> simp [absences, Report.value?]

/-- A choice of failures gives the only one of them or all of them together. -/
theorem conclude_failed (failures : List MemberFailure) :
    (∃ endpoint cause, failures = [(endpoint, cause)] ∧
        op.conclude (.failed failures) = .error cause) ∨
      op.conclude (.failed failures) = .error (.aggregate op.name failures) := by
  simp only [conclude]
  split
  · exact .inl ⟨_, _, rfl, rfl⟩
  · exact .inr rfl

/-- What a call makes of the ends of tasks that come before its deadline, if it takes notice of
those in `taken`. -/
structure Collects (deeds : Deeds n α) (arrivals taken : List (Arrival n α)) : Prop where
  /-- The call takes notice of the ends of tasks as they come. -/
  taken_prefix : taken <+: arrivals
  /-- It goes on as long as its policy is not settled. -/
  unsettled : ∀ earlier, earlier <+: taken → earlier ≠ taken → op.isSettledBy earlier = false
  /-- It stops when its policy is settled or nothing is left. -/
  settled_or_all : op.isSettledBy taken = true ∨ taken = arrivals
  /-- It waits at most once for each member, and once more in vain. -/
  waits_le : (op.tray arrivals).waits ≤ n + 1
  /-- No member reports twice. -/
  nodup : (Arrival.reporters taken).Nodup
  /-- Each report bears the address of its own member. -/
  addresses : (op.reports taken).map Report.endpoint = (Arrival.reporters taken).map op.address
  /-- The policy chooses from the reports; unless they settle it, also from one failure for each
  member that has not reported. -/
  ballot : op.ballot arrivals = op.reports taken ++
    if op.isSettledBy taken then []
    else (Arrival.silent taken).map fun member =>
      ⟨op.address member, .failure (op.absence deeds.isPartial member)⟩
  /-- Then every member appears once. -/
  everyone : op.isSettledBy taken = false →
    (Arrival.reporters taken ++ Arrival.silent taken).Perm (List.finRange n)
  /-- The choice is based on the reports if the deadline has passed and the call makes do with them,
  and on all members otherwise. -/
  quorum : op.quorum arrivals =
    if op.isSettledBy taken = false ∧ deeds.isPartial = true ∧ op.onDeadline = .bestEffort then
      (op.reports taken).length
    else n

end Operation

namespace Dispatch

variable {α : Type} {d : Dispatch α}

/-- **The loop of a call.** Whatever the policy, the members, the order in which their tasks end and
the deadline are, the policy chooses from the reports up to the first one that settles it, completed
by one failure for each member without a report if none does. -/
theorem exists_collects {arrivals : List (Arrival d.size α)} (order : arrivals.Perm d.arrivals) :
    ∃ taken, d.toOperation.Collects d.deeds arrivals taken := by
  have order := order.trans d.arrivals_perm
  have honce := Deeds.nodup_of_perm order
  have hpre := d.toOperation.received_prefix arrivals
  have hsome := (hpre.sublist.map Arrival.member).nodup honce
  have hlate : decide (arrivals.length < d.size) = d.deeds.isPartial := by
    rw [Bool.eq_iff_iff, decide_eq_true_iff, Deeds.length_lt_iff order]
  refine ⟨d.toOperation.received arrivals, ?_⟩
  exact
    { taken_prefix := hpre
      unsettled := fun earlier => d.toOperation.isSettledBy_of_prefix
      settled_or_all := by
        cases hs : d.toOperation.isSettledBy (d.toOperation.received arrivals) with
        | true => exact .inl rfl
        | false => exact .inr (d.toOperation.received_eq hs)
      waits_le := by
        have hle := hpre.length_le.trans (Arrival.length_le honce)
        rw [d.toOperation.waits_tray]
        split <;> omega
      nodup := Arrival.nodup_reporters hsome
      addresses := d.toOperation.map_endpoint_reports _
      ballot := by
        rw [d.toOperation.ballot_eq]
        cases hs : d.toOperation.isSettledBy (d.toOperation.received arrivals) with
        | true => rfl
        | false => rw [d.toOperation.received_eq hs, Operation.absences, hlate]
      everyone := fun _ => Arrival.reporters_append_silent_perm hsome
      quorum := by
        rw [d.toOperation.quorum_eq, d.toOperation.isLate_eq, hlate]
        simp only [Bool.and_eq_true, Bool.not_eq_true', and_assoc] }

/-- The tasks may also end in the order of the members. -/
theorem exists_collects_quintet :
    (quintet .firstSuccess .bestEffort 200).deeds.arrivals.Perm
        (quintet .firstSuccess .bestEffort 200).arrivals ∧
      ∃ taken, (quintet .firstSuccess .bestEffort 200).toOperation.Collects
        (quintet .firstSuccess .bestEffort 200).deeds
        (quintet .firstSuccess .bestEffort 200).deeds.arrivals taken :=
  ⟨(arrivals_perm _).symm, exists_collects (arrivals_perm _).symm⟩

/-! ### Calls that give a result -/

variable (d)

/-- There is a deadline, or every task ends. -/
def IsBounded : Prop :=
  d.deadline? = none → ∀ member, (d.team.get member).course.finish.isSome = true

/-- The call gives a result. -/
def Returns (result : Except Failure (Option α)) : Prop :=
  ∃ moment, d.course.finish = some (moment, .result result)

variable {d}

theorem deadline?_isSome_of_isLate (bounded : d.IsBounded)
    (late : d.toOperation.isLate d.arrivals = true) : d.deadline?.isSome = true := by
  rw [d.toOperation.isLate_eq, Bool.and_eq_true, decide_eq_true_iff,
    Deeds.length_lt_iff d.arrivals_perm] at late
  obtain ⟨member, -, hnone⟩ := List.any_eq_true.1 late.2
  cases hdeadline : d.deadline? with
  | some deadline => rfl
  | none =>
    -- without a deadline all ends of tasks are in time
    obtain ⟨finish, hfinish⟩ := Option.isSome_iff_exists.1 (bounded hdeadline member)
    have hdeed : d.deeds member = some finish.2 := by
      unfold deeds isInTime
      rw [hfinish, hdeadline]
      rfl
    rw [hdeed] at hnone
    cases hnone

/-- A call gives a result if it has a deadline or all its members come to an end. -/
theorem returns_answer (bounded : d.IsBounded) :
    d.Returns (d.toOperation.answer d.arrivals) := by
  have hfinish : d.finish?.isSome = true := by
    unfold finish?
    split
    · next late => exact deadline?_isSome_of_isLate bounded late
    · split <;> rfl
  obtain ⟨moment, hmoment⟩ := Option.isSome_iff_exists.1 hfinish
  exact ⟨moment, by simp [course, hmoment]⟩

end Dispatch

end Beacon
