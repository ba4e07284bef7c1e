import Beacon.Proofs.Pool.Race
import Beacon.Proofs.Pool.Timing

/-!
# Calls as races

A call by the first value whose deadline does not pass is a race of its members. If its answer is a
value, it ends with the first one (`Dispatch.exists_first_of_answer`). If some member has a value,
its answer is one (`Dispatch.exists_answer_of_value`); otherwise it has met the end of every member
(`Dispatch.exists_deed_of_no_value`). `Pool.Makes.decides` puts this together.
-/

namespace Beacon

variable {α : Type}

/-- A member as a racer. -/
def Member.racer (member : Member α) : Racer α where
  address := member.address
  finish? := member.course.finish.map fun (moment, ending) => (moment.ms, ending)

namespace Member

variable {member : Member α}

theorem value?_racer {ms : Nat} {value : α} :
    member.racer.value? = some (ms, value) ↔
      ∃ moment, member.course.finish = some (moment, .result (.ok (some value))) ∧
        moment.ms = ms := by
  unfold racer Racer.value?
  rcases member.course.finish with _ | ⟨moment, (_ | _ | value') | _⟩ <;> simp [and_comm]

theorem denies_racer :
    member.racer.denies = true ↔
      ∃ moment, member.course.finish = some (moment, .result (.ok none)) := by
  unfold racer Racer.denies
  rcases member.course.finish with _ | ⟨moment, (_ | _ | value') | _⟩ <;> simp

end Member

namespace Dispatch

variable {d : Dispatch α}

/-- The members as racers. -/
def racers (d : Dispatch α) : List (Racer α) := d.team.map Member.racer

theorem mem_racers {racer : Racer α} :
    racer ∈ d.racers ↔ ∃ member, (d.team.get member).racer = racer := by
  rw [racers, List.mem_map]
  constructor
  · rintro ⟨member, hmember, rfl⟩
    obtain ⟨i, rfl⟩ := List.get_of_mem hmember
    exact ⟨i, rfl⟩
  · rintro ⟨i, rfl⟩
    exact ⟨_, List.get_mem .., rfl⟩

theorem deeds_eq_some {member : Fin d.size} {ending : Ending α} :
    d.deeds member = some ending ↔ ∃ moment,
      (d.team.get member).course.finish = some (moment, ending) ∧ d.isInTime moment = true := by
  unfold deeds
  simp only [Option.map_eq_some_iff, Option.filter_eq_some_iff, Prod.exists, exists_eq_right]

/-- The deed of a member that has ended by the deadline is its end. -/
theorem deeds_eq_of_finish {member : Fin d.size} (ended : ∃ ending, d.deeds member = some ending)
    {moment : Moment} {ending : Ending α}
    (h : (d.team.get member).course.finish = some (moment, ending)) :
    d.deeds member = some ending := by
  obtain ⟨ending', hdeed⟩ := ended
  obtain ⟨moment', h', -⟩ := deeds_eq_some.1 hdeed
  rw [h] at h'
  cases h'
  exact hdeed

/-- An end of a task that is not among those before another one does not come in an earlier
millisecond. -/
theorem ms_le_of_append {before after : List (Moment × Arrival d.size α)}
    {moment : Moment} {a : Arrival d.size α}
    (h : d.timedArrivals = before ++ (moment, a) :: after) :
    ∀ moment' a', (moment', a') ∈ d.ends → (moment', a') ∈ before ∨ moment.ms ≤ moment'.ms := by
  intro moment' a' hmem
  by_cases hin : d.isInTime moment' = true
  · have htimed : (moment', a') ∈ d.timedArrivals := mem_timedArrivals.2 ⟨mem_ends.1 hmem, hin⟩
    have hsorted := d.pairwise_timedArrivals
    rw [h] at htimed hsorted
    rcases List.mem_append.1 htimed with hbefore | hafter
    · exact .inl hbefore
    · refine .inr ?_
      rcases List.mem_cons.1 hafter with heq | hafter
      · cases heq
        exact Nat.le_refl _
      · exact Moment.ms_le_of_not_isBefore
          ((List.pairwise_cons.1 (List.pairwise_append.1 hsorted).2.1).1 _ hafter)
  · -- what comes in time comes before what does not
    have htime : d.isInTime moment = true :=
      (mem_timedArrivals.1 (h ▸ List.mem_append_right before List.mem_cons_self)).2
    unfold isInTime at hin htime
    cases hdeadline : d.deadline? with
    | none => simp [hdeadline] at hin
    | some deadline =>
      rw [hdeadline] at hin htime
      exact .inr ((Moment.ms_le_of_isBefore htime).trans
        (Moment.ms_le_of_not_isBefore (Bool.eq_false_iff.2 hin)))

/-- If all members end before the time that the settings allow, the deadline does not pass. -/
theorem isLate_of_ended (ended : ∀ racer ∈ d.racers, ∃ finish ∈ racer.finish?,
    ∀ deadline, d.settings.deadline? d.start.ms = some deadline → finish.1 < deadline) :
    d.isLate = false := by
  have hpartial : d.deeds.isPartial = false := by
    rw [Deeds.isPartial_eq_false]
    intro member
    obtain ⟨_, hfinish, hlt⟩ := ended _ (mem_racers.2 ⟨member, rfl⟩)
    obtain ⟨⟨moment, ending⟩, hcourse, rfl⟩ := Option.map_eq_some_iff.1 hfinish
    exact ⟨ending, deeds_eq_some.2 ⟨moment, hcourse, isInTime_of_ms_lt hlt⟩⟩
  rw [Bool.eq_false_iff, Ne, ← Deeds.length_lt_iff d.arrivals_perm] at hpartial
  rw [isLate, Operation.isLate_eq, decide_eq_false hpartial, Bool.and_false]

/-- A call whose deadline does not pass is over when all its members are. -/
theorem ms_le_of_ended (forward : d.IsForward) (punctual : d.isLate = false) {limit : Nat}
    (start : d.start.ms ≤ limit)
    (ended : ∀ racer ∈ d.racers, ∀ finish ∈ racer.finish?, finish.1 ≤ limit) :
    ∀ finish ∈ d.finish?, finish.ms ≤ limit := by
  intro finish hfinish
  cases hlast : (d.toOperation.received d.arrivals).getLast? with
  | some a =>
    obtain ⟨finish', moment, hfinish', hmem, hms⟩ := exists_finish? forward punctual hlast
    cases hfinish.symm.trans hfinish'
    rw [hms]
    refine ended _ (mem_racers.2 ⟨a.member, rfl⟩) (moment.ms, a.ending) ?_
    rw [Member.racer, (mem_timedArrivals.1 hmem).1]
    rfl
  | none =>
    rw [← map_snd_timedReceived, List.getLast?_map, Option.map_eq_none_iff] at hlast
    rw [finish?_of_punctual punctual, hlast] at hfinish
    cases hfinish
    exact start

variable (policy : d.policy = .firstSuccess)

include policy

/-- A call whose answer is a value ends with the first value of its members, in time. -/
theorem exists_first_of_answer (forward : d.IsForward) {value : α}
    (h : d.toOperation.answer d.arrivals = .ok (some value)) :
    d.isLate = false ∧ ∃ finish, d.finish? = some finish ∧
      (∃ racer ∈ d.racers, racer.value? = some (finish.ms, value)) ∧
      ∀ racer ∈ d.racers, ∀ ms value', racer.value? = some (ms, value') → finish.ms ≤ ms := by
  have hfirst := ((d.toOperation.isFirst_answer policy d.arrivals_perm).found_iff value).1 h
  obtain ⟨before, a, after, harrivals, ha, hbefore⟩ := hfirst
  have hvalue := Arrival.value?_eq_some.2 ha
  have hreceived := d.toOperation.received_eq_of_first policy harrivals hvalue hbefore
    (Deeds.nodup_of_perm d.arrivals_perm)
  have punctual : d.isLate = false := by
    rw [isLate, Operation.isLate_eq, hreceived, d.toOperation.isSettledBy_of_value policy
      (List.mem_append_right before (List.mem_singleton_self a)) hvalue]
    rfl
  obtain ⟨timedBefore, rest, htimed, hbeforeMap, hrest⟩ := List.map_eq_append_iff.1 harrivals
  obtain ⟨⟨moment, a⟩, timedAfter, rfl, rfl, -⟩ := List.map_eq_cons_iff.1 hrest
  obtain ⟨finish, moment', hfinish, hmem, hms⟩ := exists_finish? forward punctual
    (by rw [hreceived, List.getLast?_concat])
  have htimedMem : (moment, a) ∈ d.timedArrivals :=
    htimed ▸ List.mem_append_right timedBefore List.mem_cons_self
  rw [moment_eq_of_mem_timedArrivals hmem htimedMem] at hms
  refine ⟨punctual, finish, hfinish, ⟨_, mem_racers.2 ⟨a.member, rfl⟩, ?_⟩, ?_⟩
  · rw [Member.value?_racer]
    exact ⟨moment, ha ▸ (mem_timedArrivals.1 htimedMem).1, hms.symm⟩
  · intro racer hracer ms value' hvalue'
    obtain ⟨member, rfl⟩ := mem_racers.1 hracer
    obtain ⟨moment'', hfinish'', rfl⟩ := Member.value?_racer.1 hvalue'
    rw [hms]
    rcases ms_le_of_append htimed moment'' ⟨member, _⟩ (mem_ends.2 hfinish'') with hmem'' | hle
    · have := hbefore _ (hbeforeMap ▸ List.mem_map_of_mem hmem'')
      cases this
    · exact hle

theorem answer_of_first {value : α} (h : d.arrivals.findSome? Arrival.value? = some value) :
    d.toOperation.answer d.arrivals = .ok (some value) := by
  rw [d.toOperation.firstSuccess_answer policy (Deeds.nodup_of_perm d.arrivals_perm), h]

/-- A call in time that has met no value has met the end of every member. -/
theorem exists_deed_of_no_value (punctual : d.isLate = false)
    (hnone : d.arrivals.findSome? Arrival.value? = none) :
    ∀ member, ∃ ending, d.deeds member = some ending := by
  have hall := d.toOperation.received_eq_of_none policy (Deeds.nodup_of_perm d.arrivals_perm) hnone
  rw [← Deeds.isPartial_eq_false, Bool.eq_false_iff, Ne, ← Deeds.length_lt_iff d.arrivals_perm]
  intro hlt
  rw [isLate, Operation.isLate_eq, hall] at punctual
  have hsettled : d.toOperation.isSettledBy d.arrivals = true := by
    simpa [hlt] using punctual
  have hle := d.toOperation.length_le_of_no_value policy hsettled hnone
  exact Nat.not_lt.2 (hle.trans (List.length_filterMap_le ..)) hlt

/-- A call in time to a member with a value gives a value. -/
theorem exists_answer_of_value (punctual : d.isLate = false) {racer : Racer α}
    (hracer : racer ∈ d.racers) (h : racer.value? ≠ none) :
    ∃ value, d.toOperation.answer d.arrivals = .ok (some value) := by
  cases hfirst : d.arrivals.findSome? Arrival.value? with
  | some value => exact ⟨value, answer_of_first policy hfirst⟩
  | none =>
    obtain ⟨member, rfl⟩ := mem_racers.1 hracer
    obtain ⟨⟨ms, value⟩, hvalue⟩ := Option.ne_none_iff_exists'.1 h
    obtain ⟨moment, hfinish, -⟩ := Member.value?_racer.1 hvalue
    have hdeed :=
      deeds_eq_of_finish (exists_deed_of_no_value policy punctual hfirst member) hfinish
    exact absurd hdeed ((IsFirst.no_value_iff d.arrivals_perm).1 hfirst member value)

/-- A call whose deadline passes ends with it, and no value comes before. -/
theorem exists_deadline_of_isLate (late : d.isLate = true) :
    d.finish? = d.deadline? ∧ ∀ racer ∈ d.racers, ∀ ms value, racer.value? = some (ms, value) →
      ∃ deadline, d.deadline? = some deadline ∧ deadline.ms ≤ ms := by
  refine ⟨finish?_of_isLate late, fun racer hracer ms value hvalue => ?_⟩
  obtain ⟨member, rfl⟩ := mem_racers.1 hracer
  obtain ⟨moment, hfinish, rfl⟩ := Member.value?_racer.1 hvalue
  have hlate : d.isInTime moment ≠ true := by
    intro hin
    have harrival : (⟨member, .result (.ok (some value))⟩ : Arrival d.size α) ∈ d.arrivals :=
      List.mem_map.2 ⟨(moment, _), mem_timedArrivals.2 ⟨hfinish, hin⟩, rfl⟩
    have hall := d.toOperation.received_eq_of_isLate late
    rw [isLate, Operation.isLate_eq, hall,
      d.toOperation.isSettledBy_of_value policy harrival rfl] at late
    cases late
  unfold isInTime at hlate
  split at hlate
  · next deadline hdeadline =>
    exact ⟨deadline, hdeadline, Moment.ms_le_of_not_isBefore (Bool.eq_false_iff.2 hlate)⟩
  · exact absurd rfl hlate

omit policy in
/-- The failures of members that have all ended are those of the racers. -/
theorem map_snd_causes (ended : ∀ member, ∃ ending, d.deeds member = some ending) :
    (d.toOperation.causes d.deeds).map Prod.snd =
      d.racers.filterMap (Racer.cause? d.operation) := by
  have hpartial := Deeds.isPartial_eq_false.2 ended
  have hteam : d.team = (List.finRange d.size).map d.team.get := (List.map_get_finRange ..).symm
  rw [Operation.causes, List.map_filterMap, racers, hteam, List.map_map, List.filterMap_map]
  refine List.filterMap_congr fun member _ => ?_
  obtain ⟨ending, hdeed⟩ := ended member
  obtain ⟨moment, hfinish, -⟩ := deeds_eq_some.1 hdeed
  rw [Deeds.cause?, hdeed, hpartial]
  dsimp only [Function.comp]
  rw [Racer.cause?, Member.racer, hfinish]
  obtain ⟨cause | answer⟩ | _ := ending <;> rfl

omit policy in
theorem exists_denies_iff (ended : ∀ member, ∃ ending, d.deeds member = some ending) :
    (∃ racer ∈ d.racers, racer.denies = true) ↔
      ∃ member, d.deeds member = some (.result (.ok none)) := by
  constructor
  · rintro ⟨racer, hracer, hdenies⟩
    obtain ⟨member, rfl⟩ := mem_racers.1 hracer
    obtain ⟨moment, hfinish⟩ := Member.denies_racer.1 hdenies
    exact ⟨member, deeds_eq_of_finish (ended member) hfinish⟩
  · rintro ⟨member, hdeed⟩
    obtain ⟨moment, hfinish, -⟩ := deeds_eq_some.1 hdeed
    exact ⟨_, mem_racers.2 ⟨member, rfl⟩, Member.denies_racer.2 ⟨moment, hfinish⟩⟩

end Dispatch

namespace Pool.Makes

variable {pool : Pool} {request : Request} {d : Dispatch request.Answer}
  (made : pool.Makes request d) (policy : d.policy = .firstSuccess)

include made policy

/-- The error of a call whose members have all ended, by the failures of the racers: that of the
only one as it is, if it is configured alone, or else all of them together. -/
theorem error_cases (ended : ∀ member, ∃ ending, d.deeds member = some ending)
    {failure : Failure} (h : d.toOperation.answer d.arrivals = .error failure) :
    (pool.members.length = 1 ∧ ∃ racer, d.racers = [racer] ∧
        racer.cause? d.operation = some failure) ∨
      pool.members.length ≠ 1 ∧ ∃ failures, failure = .aggregate d.operation failures ∧
        (failures.map Prod.snd).Perm (d.racers.filterMap (Racer.cause? d.operation)) := by
  have hcauses := Dispatch.map_snd_causes ended
  have policy : d.policy = Choice.firstSuccess.policy := policy
  cases made.tells policy (.refl _) h with
  | bare member cause alone all causes_eq cause_eq =>
    have hlength : d.racers.length = 1 := by
      rw [Dispatch.racers, List.length_map]
      exact Nat.le_antisymm (made.size_le.trans_eq alone) made.size_pos
    obtain ⟨racer, hracers⟩ := List.length_eq_one_iff.1 hlength
    refine .inl ⟨alone, racer, hracers, ?_⟩
    rw [causes_eq, hracers] at hcauses
    cases hcause : racer.cause? d.operation with
    | none => simp [hcause] at hcauses
    | some cause => simpa [hcause] using hcauses.symm
  | aggregate failures several all failures_perm length_eq =>
    exact .inr ⟨several, failures, rfl, hcauses ▸ failures_perm.map Prod.snd⟩
  | inconclusive _ _ _ majority => cases majority

/-- A call by the first value whose deadline does not pass ends with what the race of its members
comes to. -/
theorem decides (forward : d.IsForward) (punctual : d.isLate = false) :
    ∃ finish, d.finish? = some finish ∧
      Decides d.operation (pool.members.length = 1) d.racers finish.ms
        (d.toOperation.answer d.arrivals) := by
  have hfirst := d.toOperation.isFirst_answer policy d.arrivals_perm
  cases hvalue : d.arrivals.findSome? Arrival.value? with
  | some value =>
    have hanswer := Dispatch.answer_of_first policy hvalue
    obtain ⟨-, finish, hfinish, wins, first⟩ :=
      Dispatch.exists_first_of_answer policy forward hanswer
    rw [hanswer]
    exact ⟨finish, hfinish, .found wins first⟩
  | none =>
    have hfinish := Dispatch.finish?_of_punctual punctual
    have ended := Dispatch.exists_deed_of_no_value policy punctual hvalue
    have hdenies := Dispatch.exists_denies_iff ended
    have no_value : ∀ racer ∈ d.racers, racer.value? = none := by
      intro racer hracer
      by_contra hsome
      obtain ⟨value, hanswer⟩ := Dispatch.exists_answer_of_value policy punctual hracer hsome
      obtain ⟨member, value, hdeed⟩ := hfirst.exists_found_iff.1 ⟨value, hanswer⟩
      exact (IsFirst.no_value_iff d.arrivals_perm).1 hvalue member value hdeed
    refine ⟨_, hfinish, ?_⟩
    cases hanswer : d.toOperation.answer d.arrivals with
    | ok answer =>
      cases answer with
      | none => exact .notFound no_value (hdenies.2 (hfirst.notFound_iff.1 hanswer).2)
      | some value =>
        obtain ⟨member, value, hdeed⟩ := hfirst.exists_found_iff.1 ⟨value, hanswer⟩
        exact absurd hdeed ((IsFirst.no_value_iff d.arrivals_perm).1 hvalue member value)
    | error failure =>
      have undenied : ∀ racer ∈ d.racers, racer.denies = false := by
        intro racer hracer
        by_contra hdenied
        obtain ⟨member, hdeed⟩ := hdenies.1 ⟨racer, hracer, Bool.not_eq_false _ ▸ hdenied⟩
        exact (hfirst.error_iff.1 ⟨failure, hanswer⟩).2 member hdeed
      rcases made.error_cases policy ended hanswer with
        ⟨alone, racer, hracers, hcause⟩ | ⟨several, failures, rfl, hperm⟩
      · refine .failed ⟨no_value, undenied, ?_, fun _ => ⟨racer, hracers, hcause⟩,
          fun several => absurd alone several⟩
        rw [Racer.flatMap_leaves, hracers]
        simp [hcause]
      · refine .failed ⟨no_value, undenied, ?_, fun alone => absurd alone several, fun _ => rfl⟩
        rw [Racer.flatMap_leaves, Failure.leaves, Failure.leavesOfAll_eq]
        exact hperm.flatMap_right _

end Pool.Makes

end Beacon
