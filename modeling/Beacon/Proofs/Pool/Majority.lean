import Beacon.Proofs.Pool.Collection
import Beacon.Proofs.Pool.Vote

/-!
# Majorities of members

A call with the policy of majorities gives what more than half of its members report by the
deadline, in whatever order their reports come and wherever its loop stops. `Deeds.votes` and
`Deeds.denials` count what the members do, without regard to any order, and `IsVerdict` says what a
result has to be by these counts.

* `Operation.majority_answer_cases`: a majority among the reports received is one among all members,
  and if there is none among them, nothing was left out.
* `Dispatch.majority_verdict`: a call that fails at its deadline decides by all members.
* `Dispatch.bestEffort_verdict`: a call that makes do with the reports at its deadline decides by
  those that have reported; else it gives the same result.
-/

namespace Beacon

variable {n : Nat} {α : Type}

namespace Deeds

variable (deeds : Deeds n α)

/-- What a member reports by the deadline, if it does. -/
def outcome? (member : Fin n) : Option (Outcome α) :=
  match deeds member with
  | some (.result result) => some (.ofResult result)
  | _ => none

/-- The number of members that report something of a kind. -/
def count (kind : Outcome α → Bool) : Nat :=
  (List.finRange n).countP fun member => (deeds.outcome? member).any kind

/-- The number of members that report a value equal to a given one. -/
def votes [BEq α] (value : α) : Nat := deeds.count (Outcome.isVote value)

/-- The number of members that report that there is no such thing. -/
def denials : Nat := deeds.count Outcome.isDenial

/-- The number of members that report. -/
def responses : Nat := deeds.count fun _ => true

theorem responses_le : deeds.responses ≤ n := by
  have := List.countP_le_length (l := List.finRange n)
    (p := fun member => (deeds.outcome? member).any fun _ => true)
  rwa [List.length_finRange] at this

theorem count_le_responses (kind : Outcome α → Bool) : deeds.count kind ≤ deeds.responses := by
  refine List.countP_mono_left fun member _ h => ?_
  obtain ⟨outcome, hmember, -⟩ := (Option.any_eq_true ..).1 h
  rw [hmember]
  rfl

variable {deeds} in
/-- Members that report something of a kind are among those counted. -/
theorem length_le_count {kind : Outcome α → Bool} {members : List (Fin n)} (nodup : members.Nodup)
    (h : ∀ member ∈ members, (deeds.outcome? member).any kind = true) :
    members.length ≤ deeds.count kind := by
  rw [count, List.countP_eq_length_filter]
  exact (List.subperm_of_subset nodup fun member hm =>
    List.mem_filter.2 ⟨List.mem_finRange member, h member hm⟩).length_le

/-- No report is of two kinds that exclude each other. -/
theorem count_add_count_le {kind other : Outcome α → Bool}
    (disjoint : ∀ outcome, kind outcome = true → other outcome = false) :
    deeds.count kind + deeds.count other ≤ deeds.responses := by
  unfold responses count
  induction List.finRange n with
  | nil => simp
  | cons member rest ih =>
    simp only [List.countP_cons]
    cases deeds.outcome? member with
    | none => simpa using ih
    | some outcome =>
      have hother := disjoint outcome
      simp only [Option.any_some, if_true]
      split
      · next hkind => rw [if_neg (by simp [hother hkind])]; omega
      · split <;> omega

variable [BEq α]

theorem votes_add_denials_le (v : α) : deeds.votes v + deeds.denials ≤ deeds.responses := by
  refine deeds.count_add_count_le fun outcome h => ?_
  cases outcome with
  | success w => rfl
  | notFound => cases h
  | failure cause => rfl

variable [PartialEquivBEq α]

theorem votes_add_votes_le {v w : α} (h : (v == w) = false) :
    deeds.votes v + deeds.votes w ≤ deeds.responses := by
  refine deeds.count_add_count_le fun outcome hv => ?_
  cases outcome with
  | success u => exact BEq.neq_of_beq_of_neq hv h
  | notFound => rfl
  | failure cause => rfl

/-- Equal values have the same votes. -/
theorem votes_congr {v w : α} (h : (v == w) = true) : deeds.votes v = deeds.votes w := by
  have hkind : Outcome.isVote v = Outcome.isVote w := by
    funext outcome
    cases outcome <;> simp [Outcome.isVote, BEq.congr_right h]
  rw [votes, votes, hkind]

end Deeds

/-- A result is what more than half of `quorum` members report, by what the members do: a value of
theirs, up to equality, or that there is no such thing. If there is no majority, it is an error. -/
structure IsVerdict [BEq α] (result : Except Failure (Option α)) (quorum : Nat)
    (deeds : Deeds n α) : Prop where
  /-- It is a value if and only if this value has a majority. -/
  found_iff : ∀ v, (∃ w, result = .ok (some w) ∧ (w == v) = true) ↔ quorum < 2 * deeds.votes v
  /-- A value has a majority itself, and some member reports it. -/
  reported : ∀ w, result = .ok (some w) →
    quorum < 2 * deeds.votes w ∧ ∃ m, deeds m = some (.result (.ok (some w)))
  /-- It is that there is no such thing if and only if this has a majority. -/
  notFound_iff : result = .ok none ↔ quorum < 2 * deeds.denials
  /-- It is an error if and only if nothing has a majority. -/
  error_iff : (∃ failure, result = .error failure) ↔
    (∀ v, 2 * deeds.votes v ≤ quorum) ∧ 2 * deeds.denials ≤ quorum
  /-- No two different values have a majority. -/
  unique : ∀ v w, quorum < 2 * deeds.votes v → quorum < 2 * deeds.votes w → (v == w) = true
  /-- No value has a majority together with that there is no such thing. -/
  exclusive : ∀ v, quorum < 2 * deeds.votes v → 2 * deeds.denials ≤ quorum

/-- What a result has to satisfy by itself, where at most `quorum` members report. -/
theorem IsVerdict.of_cases [BEq α] [PartialEquivBEq α] {result : Except Failure (Option α)}
    {quorum : Nat} {deeds : Deeds n α} (hle : deeds.responses ≤ quorum)
    (cases : (∃ v, result = .ok (some v) ∧ (∃ m, deeds m = some (.result (.ok (some v)))) ∧
        quorum < 2 * deeds.votes v) ∨
      (result = .ok none ∧ quorum < 2 * deeds.denials) ∨
      ((∃ failure, result = .error failure) ∧ (∀ v, 2 * deeds.votes v ≤ quorum) ∧
        2 * deeds.denials ≤ quorum)) :
    IsVerdict result quorum deeds := by
  -- two majorities of the same members have a member in common
  have exclusive (v : α) (hv : quorum < 2 * deeds.votes v) : 2 * deeds.denials ≤ quorum := by
    have := deeds.votes_add_denials_le v
    omega
  have unique (v w : α) (hv : quorum < 2 * deeds.votes v) (hw : quorum < 2 * deeds.votes w) :
      (v == w) = true := by
    by_contra h
    have := deeds.votes_add_votes_le (Bool.eq_false_iff.2 h)
    omega
  rcases cases with ⟨u, rfl, hmem, hu⟩ | ⟨rfl, hd⟩ | ⟨⟨failure, rfl⟩, hv, hd⟩
  · refine ⟨fun v => ⟨?_, fun hv => ⟨u, rfl, unique u v hu hv⟩⟩, ?_, ?_, ?_, unique, exclusive⟩
    · rintro ⟨w, ⟨⟩, hw⟩
      rwa [← deeds.votes_congr hw]
    · rintro w ⟨⟩
      exact ⟨hu, hmem⟩
    · exact ⟨nofun, fun hd => absurd (exclusive u hu) (Nat.not_le.2 hd)⟩
    · exact ⟨nofun, fun h => absurd (h.1 u) (Nat.not_le.2 hu)⟩
  · refine ⟨fun v => ⟨nofun, fun hv => ?_⟩, nofun, ⟨fun _ => hd, fun _ => rfl⟩, ?_, unique,
      exclusive⟩
    · exact absurd (exclusive v hv) (Nat.not_le.2 hd)
    · exact ⟨nofun, fun h => absurd h.2 (Nat.not_le.2 hd)⟩
  · refine ⟨fun v => ⟨nofun, fun h => ?_⟩, nofun, ⟨nofun, fun h => ?_⟩, ?_, unique, exclusive⟩
    · exact absurd (hv v) (Nat.not_le.2 h)
    · exact absurd hd (Nat.not_le.2 h)
    · exact ⟨fun _ => ⟨hv, hd⟩, fun _ => ⟨failure, rfl⟩⟩

/-! ### Policies of majorities -/

/-- A policy chooses by majority, and is settled only by a majority or if everyone has reported. -/
structure Policy.IsMajority [BEq α] (policy : Policy α) : Prop where
  select_eq : policy.select = majority.select
  settled : ∀ reports dispatched, policy.isSettled reports dispatched = true →
    dispatched ≤ reports.length ∨ dispatched < 2 * Report.denials reports ∨
      ∃ v, dispatched < 2 * Report.votes reports v

theorem Policy.isMajority_of_eq [BEq α] [PartialEquivBEq α] {policy : Policy α}
    (h : policy = .majority) : policy.IsMajority := by
  subst h
  exact ⟨rfl, fun reports _ h => majority_isSettled reports h⟩

/-- A policy that chooses in the same way, but waits for everyone. -/
def Policy.patient (policy : Policy α) : Policy α :=
  { policy with isSettled := fun reports dispatched => dispatched ≤ reports.length }

theorem Policy.IsMajority.patient [BEq α] {policy : Policy α} (h : policy.IsMajority) :
    policy.patient.IsMajority where
  select_eq := h.select_eq
  settled _ _ h := .inl (of_decide_eq_true h)

namespace Operation

variable (op : Operation n α) {deeds : Deeds n α} {arrivals : List (Arrival n α)}

/-! ### The reports of a call -/

/-- What is reported is what the members do, in any order. -/
theorem countP_reports (order : arrivals.Perm deeds.arrivals) (kind : Outcome α → Bool) :
    (op.reports arrivals).countP (fun r => kind r.outcome) = deeds.count kind := by
  rw [reports, List.countP_filterMap, order.countP_eq, Deeds.arrivals, List.countP_filterMap,
    Deeds.count]
  refine List.countP_congr fun member _ => ?_
  unfold Deeds.outcome?
  cases deeds member with
  | none => rfl
  | some ending => cases ending <;> simp

theorem length_reports_eq (order : arrivals.Perm deeds.arrivals) :
    (op.reports arrivals).length = deeds.responses := by
  rw [Deeds.responses, ← op.countP_reports order, List.countP_true]

/-- What is received is part of what the members do. -/
theorem countP_received_le (order : arrivals.Perm deeds.arrivals) (kind : Outcome α → Bool) :
    (op.reports (op.received arrivals)).countP (fun r => kind r.outcome) ≤ deeds.count kind := by
  rw [← op.countP_reports order]
  exact ((op.received_prefix arrivals).filterMap _).countP_le

/-- The failures of silent members add nothing but failures. -/
theorem countP_ballot {kind : Outcome α → Bool} (h : ∀ cause, kind (.failure cause) = false) :
    (op.ballot arrivals).countP (fun r => kind r.outcome) =
      (op.reports (op.received arrivals)).countP fun r => kind r.outcome := by
  rw [ballot_eq, List.countP_append]
  split <;> simp [absences, h]

theorem exists_deed_of_value {v : α} (order : arrivals.Perm deeds.arrivals)
    (h : v ∈ (op.ballot arrivals).filterMap Report.value?) :
    ∃ m, deeds m = some (.result (.ok (some v))) := by
  rw [filterMap_value?_ballot] at h
  obtain ⟨a, ha, hv⟩ := List.mem_filterMap.1 h
  refine ⟨a.member, ?_⟩
  rw [(Deeds.mem_of_perm order).1 ((op.received_prefix arrivals).subset ha),
    Arrival.value?_eq_some.1 hv]

theorem quorum_le (order : arrivals.Perm deeds.arrivals) : op.quorum arrivals ≤ n := by
  rw [quorum_eq]
  split
  · have once := Deeds.nodup_of_perm order
    exact (List.length_filterMap_le ..).trans
      ((op.received_prefix arrivals).length_le.trans (Arrival.length_le once))
  · exact Nat.le_refl n

/-- Whoever reports is part of the quorum. -/
theorem responses_le_quorum (order : arrivals.Perm deeds.arrivals) :
    deeds.responses ≤ op.quorum arrivals := by
  rw [quorum_eq]
  split
  · next h => rw [op.received_eq_of_isLate h.1, op.length_reports_eq order]
  · exact deeds.responses_le

variable [BEq α]

/-- If nothing has a majority among the reports received, nothing was left out. -/
theorem received_eq_of_undecided (majority : op.policy.IsMajority)
    (order : arrivals.Perm deeds.arrivals)
    (hvotes : ∀ v, 2 * Report.votes (op.reports (op.received arrivals)) v ≤ op.quorum arrivals)
    (hdenials : 2 * Report.denials (op.reports (op.received arrivals)) ≤ op.quorum arrivals) :
    op.received arrivals = arrivals := by
  cases hs : op.isSettledBy (op.received arrivals) with
  | false => exact op.received_eq hs
  | true =>
    -- a settled policy has heard from everyone, as there is no majority that settled it
    have hquorum : op.quorum arrivals = n := by
      rw [quorum_eq, isLate_eq, hs]
      rfl
    rw [hquorum] at hvotes hdenials
    rcases majority.settled _ _ hs with hall | hd | ⟨v, hv⟩
    · exact op.received_eq_of_length_le (Deeds.nodup_of_perm order) hall
    · exact absurd hdenials (Nat.not_le.2 hd)
    · exact absurd (hvotes v) (Nat.not_le.2 hv)

/-- What a call by majority gives, by what all its members do. -/
theorem majority_answer_cases [PartialEquivBEq α] (majority : op.policy.IsMajority)
    (order : arrivals.Perm deeds.arrivals) :
    (∃ v, op.answer arrivals = .ok (some v) ∧ (∃ m, deeds m = some (.result (.ok (some v)))) ∧
        op.quorum arrivals < 2 * deeds.votes v) ∨
      (op.answer arrivals = .ok none ∧ op.quorum arrivals < 2 * deeds.denials) ∨
      ((∃ failure, op.answer arrivals = .error failure) ∧
        (∀ v, 2 * deeds.votes v ≤ op.quorum arrivals) ∧
        2 * deeds.denials ≤ op.quorum arrivals) := by
  have hvotes (v : α) : Report.votes (op.ballot arrivals) v =
      Report.votes (op.reports (op.received arrivals)) v := op.countP_ballot fun _ => rfl
  have hdenials : Report.denials (op.ballot arrivals) =
      Report.denials (op.reports (op.received arrivals)) := op.countP_ballot fun _ => rfl
  unfold answer
  rw [majority.select_eq]
  rcases Policy.majority_select_cases (op.ballot arrivals) (op.quorum arrivals) with
    ⟨v, hmem, hselect, hv⟩ | ⟨hv, ⟨hselect, hd⟩ | ⟨hd, failures, hselect⟩⟩
  · -- what has a majority of the reports received has one of all, which are no fewer
    refine .inl ⟨v, by rw [hselect]; rfl, op.exists_deed_of_value order hmem, ?_⟩
    have := op.countP_received_le order (Outcome.isVote v)
    rw [hvotes, Report.votes] at hv
    rw [Deeds.votes]
    omega
  · refine .inr (.inl ⟨by rw [hselect]; rfl, ?_⟩)
    have := op.countP_received_le order Outcome.isDenial
    rw [hdenials, Report.denials] at hd
    rw [Deeds.denials]
    omega
  · -- nothing has a majority of the reports received, but these are all
    simp only [hvotes] at hv
    rw [hdenials] at hd
    have hall := op.received_eq_of_undecided majority order hv hd
    rw [hall] at hv hd
    refine .inr (.inr ⟨?_, fun v => ?_, ?_⟩)
    · rcases hselect with hselect | ⟨reason, hselect⟩
      · rw [hselect]
        rcases op.conclude_failed failures with ⟨_, cause, -, h⟩ | h
        · exact ⟨cause, h⟩
        · exact ⟨_, h⟩
      · exact ⟨.inconclusive op.name reason failures, by rw [hselect]; rfl⟩
    · rw [Deeds.votes, ← op.countP_reports order]
      exact hv v
    · rw [Deeds.denials, ← op.countP_reports order]
      exact hd

variable [PartialEquivBEq α]

/-- What a call gives is a verdict by its quorum. -/
theorem isVerdict_quorum (majority : op.policy.IsMajority) (order : arrivals.Perm deeds.arrivals) :
    IsVerdict (op.answer arrivals) (op.quorum arrivals) deeds :=
  .of_cases (op.responses_le_quorum order) (op.majority_answer_cases majority order)

/-- A call that does not make do with the reports at its deadline decides by all its members. -/
theorem isVerdict_answer (majority : op.policy.IsMajority) (order : arrivals.Perm deeds.arrivals)
    (fails : op.onDeadline = .fail) : IsVerdict (op.answer arrivals) n deeds := by
  have hverdict := op.isVerdict_quorum majority order
  have hquorum : op.quorum arrivals = n := by simp [quorum_eq, fails]
  rwa [hquorum] at hverdict

/-- If the deadline has passed, a call that makes do with the reports decides by those that have
reported. -/
theorem isVerdict_answer_of_isLate (majority : op.policy.IsMajority)
    (order : arrivals.Perm deeds.arrivals) (makesDo : op.onDeadline = .bestEffort)
    (late : op.isLate arrivals = true) :
    IsVerdict (op.answer arrivals) deeds.responses deeds := by
  have hverdict := op.isVerdict_quorum majority order
  -- everything in time was received, so that the quorum is what all members report
  have hquorum : op.quorum arrivals = deeds.responses := by
    rw [quorum_eq, if_pos ⟨late, makesDo⟩, op.received_eq_of_isLate late,
      op.length_reports_eq order]
  rwa [hquorum] at hverdict

/-- What more than half of all members report is the answer, whatever happens at the deadline. -/
theorem answer_of_votes (majority : op.policy.IsMajority) (order : arrivals.Perm deeds.arrivals)
    {v : α} (h : n < 2 * deeds.votes v) :
    ∃ w, op.answer arrivals = .ok (some w) ∧ (w == v) = true :=
  ((op.isVerdict_quorum majority order).found_iff v).2 ((op.quorum_le order).trans_lt h)

/-! ### Both ways at the deadline -/

/-- The same operation with another way at its deadline. -/
def under (onDeadline : DeadlinePolicy) : Operation n α := { op with onDeadline }

/-- The same operation, but it waits for everyone. -/
def patient : Operation n α := { op with policy := op.policy.patient }

omit [BEq α] [PartialEquivBEq α] in
/-- The loop of a call does not depend on what happens at the deadline. -/
theorem tray_under (onDeadline : DeadlinePolicy) (arrivals : List (Arrival n α)) :
    (op.under onDeadline).tray arrivals = op.tray arrivals := by
  unfold tray
  generalize (Tray.empty : Tray n α) = start
  induction arrivals generalizing start with
  | nil => rfl
  | cons a rest ih =>
    simp only [collect, ih]
    rfl

end Operation

/-- Two results are the same decision: equal values, nothing twice, or an error twice. -/
def SameDecision [BEq α] : Except Failure (Option α) → Except Failure (Option α) → Prop
  | .ok (some v), .ok (some w) => (v == w) = true
  | .ok none, .ok none => True
  | .error _, .error _ => True
  | _, _ => False

/-- Verdicts on the same deeds are the same decision. -/
theorem IsVerdict.sameDecision [BEq α] {result result' : Except Failure (Option α)} {quorum : Nat}
    {deeds : Deeds n α} (h : IsVerdict result quorum deeds) (h' : IsVerdict result' quorum deeds) :
    SameDecision result result' := by
  match result with
  | .ok (some v) =>
    have hv := (h.reported v rfl).1
    obtain ⟨w, rfl, -⟩ := (h'.found_iff v).2 hv
    exact h.unique v w hv (h'.reported w rfl).1
  | .ok none =>
    rw [h'.notFound_iff.2 (h.notFound_iff.1 rfl)]
    trivial
  | .error failure =>
    obtain ⟨failure', rfl⟩ := h'.error_iff.2 (h.error_iff.1 ⟨failure, rfl⟩)
    trivial

namespace Operation

variable (op : Operation n α) {arrivals : List (Arrival n α)}

theorem isLate_under (onDeadline : DeadlinePolicy) :
    (op.under onDeadline).isLate arrivals = op.isLate arrivals := by
  rw [isLate, tray_under, isLate]

/-- If the deadline does not pass, it does not matter what would have happened at it. -/
theorem answer_under (h : op.isLate arrivals = false) (p q : DeadlinePolicy) :
    (op.under p).answer arrivals = (op.under q).answer arrivals := by
  have hballot : (op.under p).ballot arrivals = (op.under q).ballot arrivals := by
    unfold ballot
    rw [tray_under, tray_under]
    rfl
  have hquorum (r : DeadlinePolicy) : (op.under r).quorum arrivals = n := by
    rw [quorum_eq, isLate_under, h]
    rfl
  unfold answer
  rw [hballot, hquorum, hquorum]
  rfl

end Operation

namespace Dispatch

variable (d : Dispatch α)

/-- The same call with another way at its deadline. -/
def under (onDeadline : DeadlinePolicy) : Dispatch α :=
  { d with settings := { d.settings with onDeadline } }

variable [BEq α] [PartialEquivBEq α] {d}

/-- **Majorities of all members.** A call by majority that fails at its deadline gives a result. In
whatever order its members end, the result is what more than half of all members report by the
deadline, and so the same decision, also if the call waits for everyone. -/
theorem majority_verdict (policy : d.policy = .majority) (fails : d.settings.onDeadline = .fail)
    (bounded : d.IsBounded) :
    d.Returns (d.toOperation.answer d.arrivals) ∧
      ∀ arrivals, arrivals.Perm d.arrivals →
        IsVerdict (d.toOperation.answer arrivals) d.size d.deeds ∧
          ∀ arrivals', arrivals'.Perm d.arrivals →
            SameDecision (d.toOperation.answer arrivals) (d.toOperation.answer arrivals') ∧
              SameDecision (d.toOperation.answer arrivals)
                (d.toOperation.patient.answer arrivals') := by
  have hmajority : d.toOperation.policy.IsMajority := Policy.isMajority_of_eq policy
  have hverdict (arrivals) (order : arrivals.Perm d.arrivals) :
      IsVerdict (d.toOperation.answer arrivals) d.size d.deeds :=
    d.toOperation.isVerdict_answer hmajority (order.trans d.arrivals_perm) fails
  refine ⟨returns_answer bounded,
    fun arrivals order => ⟨hverdict _ order, fun arrivals' order' => ?_⟩⟩
  have hpatient : IsVerdict (d.toOperation.patient.answer arrivals') d.size d.deeds :=
    d.toOperation.patient.isVerdict_answer hmajority.patient (order'.trans d.arrivals_perm) fails
  exact ⟨(hverdict _ order).sameDecision (hverdict _ order'),
    (hverdict _ order).sameDecision hpatient⟩

/-- Three of five members report seven, one dies and one reports eight. -/
theorem majority_verdict_quintet :
    (quintet .majority .fail 30).settings.onDeadline = .fail ∧
      (quintet .majority .fail 30).IsBounded ∧
      (quintet .majority .fail 30).Returns (.ok (some 7)) := by
  have bounded : (quintet .majority .fail 30).IsBounded := nofun
  refine ⟨rfl, bounded, ?_⟩
  obtain ⟨hreturns, hverdict⟩ := majority_verdict (d := quintet .majority .fail 30) rfl rfl bounded
  have hvotes : 5 < 2 * (quintet .majority .fail 30).deeds.votes 7 := by decide
  obtain ⟨w, hanswer, hw⟩ := ((hverdict _ (.refl _)).1.found_iff 7).2 hvotes
  rwa [hanswer, eq_of_beq hw] at hreturns

/-- **Majorities of those that report.** A call by majority that makes do with the reports at its
deadline gives the same result as one that fails there if the deadline does not pass. If it does,
the result is what more than half of the reports received say. -/
theorem bestEffort_verdict (policy : d.policy = .majority) (bounded : d.IsBounded) :
    (∀ onDeadline, (d.under onDeadline).Returns
        ((d.toOperation.under onDeadline).answer d.arrivals)) ∧
      ∀ arrivals, arrivals.Perm d.arrivals →
        (d.toOperation.isLate arrivals = false →
          (d.toOperation.under .bestEffort).answer arrivals =
            (d.toOperation.under .fail).answer arrivals) ∧
        (d.toOperation.isLate arrivals = true →
          (d.toOperation.tray arrivals).reports.length = d.deeds.responses ∧
            IsVerdict ((d.toOperation.under .bestEffort).answer arrivals) d.deeds.responses
              d.deeds ∧
            (d.deeds.responses = 0 → ∃ failure,
              (d.toOperation.under .bestEffort).answer arrivals = .error failure)) := by
  have hmajority : (d.toOperation.under .bestEffort).policy.IsMajority :=
    Policy.isMajority_of_eq policy
  refine ⟨fun onDeadline => returns_answer (d := d.under onDeadline) bounded,
    fun arrivals order => ⟨fun h => d.toOperation.answer_under h _ _, fun late => ?_⟩⟩
  have order := order.trans d.arrivals_perm
  have hverdict := (d.toOperation.under .bestEffort).isVerdict_answer_of_isLate hmajority order rfl
    (by rw [Operation.isLate_under]; exact late)
  refine ⟨?_, hverdict, fun hzero => hverdict.error_iff.2 ⟨fun v => ?_, ?_⟩⟩
  · rw [d.toOperation.reports_tray, d.toOperation.received_eq_of_isLate late,
      d.toOperation.length_reports_eq order]
  · have : d.deeds.votes v ≤ d.deeds.responses := d.deeds.count_le_responses _
    omega
  · have : d.deeds.denials ≤ d.deeds.responses := d.deeds.count_le_responses _
    omega

/-- Two of the three members that report in time report seven. -/
theorem bestEffort_verdict_quintet :
    (quintet .majority .bestEffort 200).IsBounded ∧
      ((quintet .majority .bestEffort 200).toOperation.under .bestEffort).answer
        (quintet .majority .bestEffort 200).deeds.arrivals = .ok (some 7) := by
  have bounded : (quintet .majority .bestEffort 200).IsBounded := nofun
  refine ⟨bounded, ?_⟩
  obtain ⟨-, hverdict⟩ :=
    bestEffort_verdict (d := quintet .majority .bestEffort 200) rfl bounded
  have late : (quintet .majority .bestEffort 200).toOperation.isLate
      (quintet .majority .bestEffort 200).deeds.arrivals = true := by decide
  obtain ⟨-, hlate, -⟩ := (hverdict _ (arrivals_perm _).symm).2 late
  have hvotes : (quintet .majority .bestEffort 200).deeds.responses <
      2 * (quintet .majority .bestEffort 200).deeds.votes 7 := by decide
  obtain ⟨w, hanswer, hw⟩ := (hlate.found_iff 7).2 hvotes
  rw [hanswer, eq_of_beq hw]

end Dispatch

end Beacon
