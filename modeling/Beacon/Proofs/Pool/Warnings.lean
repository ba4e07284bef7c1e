import Beacon.Proofs.Pool.Errors
import Beacon.Proofs.Pool.Log
import Mathlib.Data.List.Forall2

/-!
# Failures and warnings

What a policy chooses from holds the failures that members report, and those that are made up for
members without a report. A failure is logged when it is noticed: one that comes with a report in
its own words, and the loss of a task without naming its member. A member that is silent at the
deadline is never noticed, so that its failure is not logged.

* `Operation.warnings_perm`: what a call logs, by the ends of tasks that it takes notice of.
* `Operation.areLogged_iff`: every failure that the policy is given has a warning of its own if and
  only if the deadline does not pass.
* `Dispatch.failures_logged_iff` says so of the log of a call, and `Dispatch.deadline_not_logged`
  shows a call with an answer that passes over a silent member without a warning.
-/

namespace Beacon

/-- A warning is about the failure of a member. -/
inductive Warning.IsAbout : Warning → MemberFailure → Prop where
  /-- A failure that the member reports. -/
  | failed (endpoint : String) (cause : Failure) :
    IsAbout (.callFailed endpoint cause) (endpoint, cause)
  /-- The failure that is made up when its task is lost. -/
  | lost (operation endpoint reason : String) :
    IsAbout .taskLost (endpoint, .task operation endpoint reason)

/-- Every one of some failures has a warning of its own. -/
def AreLogged (failures : List MemberFailure) (warnings : List Warning) : Prop :=
  ∃ told, told.Subperm warnings ∧ List.Forall₂ Warning.IsAbout told failures

/-- The warning about a failure that is reported. -/
def MemberFailure.warning (failure : MemberFailure) : Warning := .callFailed failure.1 failure.2

theorem forall₂_isAbout_map_warning (failures : List MemberFailure) :
    List.Forall₂ Warning.IsAbout (failures.map MemberFailure.warning) failures := by
  induction failures with
  | nil => exact .nil
  | cons failure rest ih => exact .cons (.failed failure.1 failure.2) ih

/-- Whether a failure is that the deadline has passed. -/
def MemberFailure.isDeadline : MemberFailure → Bool
  | (_, .deadline ..) => true
  | _ => false

/-- Whether a warning is about such a failure. -/
def Warning.isDeadline : Warning → Bool
  | .callFailed endpoint cause => MemberFailure.isDeadline (endpoint, cause)
  | .taskLost => false

/-- What is logged tells of no fewer deadlines than the failures do. -/
theorem AreLogged.countP_le {failures : List MemberFailure} {warnings : List Warning}
    (h : AreLogged failures warnings) :
    failures.countP MemberFailure.isDeadline ≤ warnings.countP Warning.isDeadline := by
  obtain ⟨told, hsub, htold⟩ := h
  have hcount : failures.countP MemberFailure.isDeadline = told.countP Warning.isDeadline := by
    clear hsub
    induction htold with
    | nil => rfl
    | cons habout _ ih =>
      rw [List.countP_cons, List.countP_cons, ih]
      cases habout <;> rfl
  rw [hcount]
  exact hsub.countP_le _

namespace Arrival

variable {n : Nat} {α : Type}

/-- How many tasks end without a report. -/
def lost (arrivals : List (Arrival n α)) : Nat := arrivals.countP fun a => !a.hasReport

theorem length_reporters_add_lost (arrivals : List (Arrival n α)) :
    (reporters arrivals).length + lost arrivals = arrivals.length := by
  rw [reporters, List.length_map, ← List.countP_eq_length_filter, lost]
  simpa using (List.length_eq_countP_add_countP hasReport (l := arrivals)).symm

/-- A member is silent because its task is lost, or because it goes on. -/
theorem length_silent {arrivals : List (Arrival n α)}
    (once : (arrivals.map Arrival.member).Nodup) :
    (silent arrivals).length + arrivals.length = n + lost arrivals := by
  have hreporters := length_reporters_add_lost arrivals
  have hall := (reporters_append_silent_perm once).length_eq
  rw [List.length_append, List.length_finRange] at hall
  omega

end Arrival

namespace Operation

variable {n : Nat} {α : Type} (op : Operation n α) {arrivals : List (Arrival n α)}

/-- A call logs the failures that it receives, and that a task is lost once for each of those. -/
theorem warnings_perm (arrivals : List (Arrival n α)) :
    (op.warnings arrivals).Perm
      (((op.reports (op.received arrivals)).filterMap Report.failure?).map MemberFailure.warning ++
        List.replicate (Arrival.lost (op.received arrivals)) .taskLost) := by
  unfold warnings
  induction op.received arrivals with
  | nil => exact .nil
  | cons a rest ih =>
    obtain ⟨member, (cause | (_ | v)) | _⟩ := a
    · exact ih.cons _
    · exact ih
    · exact ih
    · -- the loss of a task comes behind all failures that are reported later
      rw [Arrival.lost, List.countP_cons_of_pos rfl, List.replicate_succ]
      exact (ih.cons _).trans List.perm_middle.symm

theorem countP_isDeadline_warnings (arrivals : List (Arrival n α)) :
    (op.warnings arrivals).countP Warning.isDeadline =
      ((op.reports (op.received arrivals)).filterMap Report.failure?).countP
        MemberFailure.isDeadline := by
  rw [(op.warnings_perm arrivals).countP_eq, List.countP_append, List.countP_map,
    List.countP_replicate]
  rfl

theorem filterMap_failure?_absences :
    (op.absences arrivals).filterMap Report.failure? =
      (Arrival.silent arrivals).map fun member =>
        (op.address member, op.absence (arrivals.length < n) member) := by
  rw [absences, List.filterMap_map, ← List.filterMap_eq_map]
  rfl

/-- Members whose task is lost have a warning each, if no task goes on. -/
theorem forall₂_isAbout_absences (hall : n ≤ arrivals.length) :
    List.Forall₂ Warning.IsAbout
      (List.replicate (Arrival.silent arrivals).length .taskLost)
      ((op.absences arrivals).filterMap Report.failure?) := by
  rw [filterMap_failure?_absences, decide_eq_false (Nat.not_lt.2 hall)]
  induction Arrival.silent arrivals with
  | nil => exact .nil
  | cons member rest ih => exact .cons (.lost _ _ _) ih

/-- **What is logged.** Every failure that the policy is given to choose from has a warning of its
own if and only if the deadline does not pass. -/
theorem areLogged_iff (once : (arrivals.map Arrival.member).Nodup) :
    AreLogged ((op.ballot arrivals).filterMap Report.failure?) (op.warnings arrivals) ↔
      op.isLate arrivals = false := by
  have hwarnings := (op.warnings_perm arrivals).symm
  constructor
  · intro hlogged
    by_contra hlate
    rw [Bool.not_eq_false] at hlate
    have hsettled := hlate
    rw [isLate_eq, Bool.and_eq_true, Bool.not_eq_true', decide_eq_true_iff] at hsettled
    obtain ⟨hopen, hlt⟩ := hsettled
    -- the failures that are made up are about the deadline, and there is one at least
    have hcount := hlogged.countP_le
    rw [countP_isDeadline_warnings, ballot_eq, hopen, if_neg Bool.false_ne_true,
      List.filterMap_append, List.countP_append, filterMap_failure?_absences,
      op.received_eq_of_isLate hlate, decide_eq_true hlt] at hcount
    have hsilent := Arrival.length_silent once
    have hall : ((Arrival.silent arrivals).map fun member =>
        (op.address member, op.absence true member)).countP MemberFailure.isDeadline =
          (Arrival.silent arrivals).length := by
      rw [List.countP_map]
      exact List.countP_eq_length.2 fun member _ => rfl
    omega
  · intro hintime
    rw [ballot_eq, List.filterMap_append]
    cases hs : op.isSettledBy (op.received arrivals) with
    | true =>
      rw [if_pos rfl, List.filterMap_nil, List.append_nil]
      exact ⟨_, (List.sublist_append_left _ _).subperm.trans hwarnings.subperm,
        forall₂_isAbout_map_warning _⟩
    | false =>
      -- everyone has ended, so that exactly those are silent whose task is lost
      rw [isLate_eq, hs, Bool.not_false, Bool.true_and, decide_eq_false_iff_not,
        Nat.not_lt] at hintime
      have hle := Arrival.length_le once
      have hsilent := Arrival.length_silent once
      rw [op.received_eq hs] at hwarnings ⊢
      rw [show Arrival.lost arrivals = (Arrival.silent arrivals).length by omega] at hwarnings
      exact ⟨_, hwarnings.subperm, List.rel_append (forall₂_isAbout_map_warning _)
        (op.forall₂_isAbout_absences hintime)⟩

end Operation

namespace Dispatch

variable {α : Type} (d : Dispatch α)

/-- **Failures and warnings.** What a call notes itself is part of its log. Whatever its policy is
and whatever it comes to, every failure that the policy is given to choose from has a warning of its
own there if and only if the deadline does not pass before the policy is settled. -/
theorem failures_logged_iff :
    (∀ note ∈ d.ownLog, note ∈ d.course.log ∧ note.place = d.place) ∧
      (AreLogged ((d.toOperation.ballot d.arrivals).filterMap Report.failure?) d.ownLog.warnings ↔
        d.toOperation.isLate d.arrivals = false) := by
  refine ⟨fun note hnote => ⟨mem_log_of_mem_ownLog hnote, (ownLog_cases hnote).1⟩, ?_⟩
  rw [warnings_ownLog]
  exact d.toOperation.areLogged_iff (Deeds.nodup_of_perm d.arrivals_perm)

end Dispatch

/-- A pool of two nodes. The first one is silent, and the second one knows of nothing. -/
def Pool.duo : Pool where
  settings := { timeout := ⟨100000000⟩ }
  members :=
    [.single (.steady "http://n0" .all 0 none),
      .single (.steady "http://n1" .all 80 (some (.result (.ok none))))]

/-- A call of the two nodes for the root of the latest state. -/
def Dispatch.duo : Dispatch Digest :=
  Pool.duo.dispatch [] (.stateRoot "head") Choice.firstSuccess.policy

theorem Dispatch.arrivals_duo :
    Dispatch.duo.arrivals = [⟨⟨1, by decide⟩, .result (.ok none)⟩] :=
  List.perm_singleton.1 (arrivals_perm Dispatch.duo)

/-- The call has an answer, and passes over the failure of the silent node without a warning. -/
theorem Dispatch.deadline_not_logged :
    (∃ moment, (Pool.duo.call [] (.stateRoot "head") Choice.firstSuccess.policy).finish =
        some (moment, .result (.ok none))) ∧
      (Dispatch.duo.toOperation.ballot Dispatch.duo.arrivals).filterMap Report.failure? =
        [("http://n0", .deadline "beacon state root" "http://n0")] ∧
      Dispatch.duo.ownLog.warnings = [] ∧
      ¬ AreLogged ((Dispatch.duo.toOperation.ballot Dispatch.duo.arrivals).filterMap
        Report.failure?) Dispatch.duo.ownLog.warnings := by
  have hlate : Dispatch.duo.toOperation.isLate Dispatch.duo.arrivals = true := by
    rw [arrivals_duo]
    rfl
  have hanswer : Dispatch.duo.toOperation.answer Dispatch.duo.arrivals = .ok none := by
    rw [arrivals_duo]
    rfl
  refine ⟨?_, ?_, ?_, ?_⟩
  · rw [← hanswer]
    exact returns_answer (d := Dispatch.duo) nofun
  · rw [arrivals_duo]
    rfl
  · rw [warnings_ownLog, arrivals_duo]
    rfl
  · rw [warnings_ownLog, Dispatch.duo.toOperation.areLogged_iff
      (Deeds.nodup_of_perm (arrivals_perm Dispatch.duo)), hlate]
    exact nofun

end Beacon
