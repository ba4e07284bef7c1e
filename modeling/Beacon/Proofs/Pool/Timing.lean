import Beacon.Proofs.Pool.FirstSuccess
import Beacon.Proofs.Pool.Log
import Beacon.Proofs.Pool.Team

/-!
# When calls end

Moments are in a total order (`Moment.isBefore_trichotomy`), so that the ends of tasks come one
after the other (`Dispatch.pairwise_ends`). A call looks at the end of a task in the millisecond in
which it comes (`Dispatch.ms_looks`). So, unless its deadline passes, it ends in the millisecond of
the last end that it takes notice of (`Dispatch.exists_finish?`).

All this is for calls whose members do not end before the call starts (`Dispatch.IsForward`). The
calls of pools are such (`Pool.isForward_dispatch`, `Pool.isForward_dispatchAt`), as no provider
ends before it is asked (`Provider.start_le_finish`).
-/

namespace Beacon

namespace Moment

/-- Only what is in an earlier millisecond is before the opening of a millisecond. -/
theorem isBefore_opening_iff {a : Moment} {ms : Nat} :
    a.isBefore (.opening ms) = true ↔ a.ms < ms := by
  cases a <;> simp only [isBefore, Bool.or_eq_true, Bool.and_eq_true, decide_eq_true_eq] <;>
    simp [Moment.ms, part]

/-- The order is total. -/
theorem isBefore_trichotomy (a b : Moment) :
    a.isBefore b = true ∨ a = b ∨ b.isBefore a = true := by
  induction a generalizing b <;> cases b
  all_goals
    simp only [isBefore, Bool.or_eq_true, Bool.and_eq_true, decide_eq_true_eq]
    grind [ms, part]

theorem ms_le_of_not_isBefore {a b : Moment} (h : a.isBefore b = false) : b.ms ≤ a.ms := by
  by_contra hlt
  rw [isBefore_of_ms_lt (Nat.not_le.1 hlt)] at h
  cases h

/-- As the order is total, not to be before is transitive. -/
theorem not_isBefore_trans {a b c : Moment} (h : b.isBefore a = false)
    (h' : c.isBefore b = false) : c.isBefore a = false := by
  by_contra hca
  rw [Bool.not_eq_false] at hca
  rcases isBefore_trichotomy b c with hbc | rfl | hcb
  · rw [isBefore_trans hbc hca] at h
    cases h
  · rw [hca] at h
    cases h
  · rw [hcb] at h'
    cases h'

theorem not_isBefore_of_isBefore {a b : Moment} (h : a.isBefore b = true) :
    b.isBefore a = false := by
  by_contra hba
  rw [Bool.not_eq_false] at hba
  have hirrefl := isBefore_irrefl a
  rw [isBefore_trans h hba] at hirrefl
  cases hirrefl

/-- What is sorted by its moments is in the order of time. -/
theorem pairwise_mergeSort {β : Type} (moment : β → Moment) (l : List β) :
    (l.mergeSort fun a b => !(moment b).isBefore (moment a)).Pairwise
      fun a b => (moment b).isBefore (moment a) = false := by
  have hsorted : (l.mergeSort fun a b => !(moment b).isBefore (moment a)).Pairwise
      fun a b => (!(moment b).isBefore (moment a)) = true := by
    refine List.pairwise_mergeSort ?_ ?_ l
    · intro a b c hab hbc
      rw [Bool.not_eq_true'] at hab hbc ⊢
      exact not_isBefore_trans hab hbc
    · intro a b
      cases h : (moment b).isBefore (moment a) with
      | false => rfl
      | true => rw [not_isBefore_of_isBefore h]; rfl
  refine hsorted.imp fun h => ?_
  rwa [Bool.not_eq_true'] at h

end Moment

namespace Dispatch

variable {α : Type} (d : Dispatch α)

/-! ### The ends of tasks -/

/-- No task ends before the call starts. -/
def IsForward : Prop :=
  ∀ member ∈ d.team, ∀ finish ∈ member.course.finish, d.start.ms ≤ finish.1.ms

variable {d}

theorem mem_ends {moment : Moment} {a : Arrival d.size α} :
    (moment, a) ∈ d.ends ↔ (d.team.get a.member).course.finish = some (moment, a.ending) := by
  rw [ends, (List.mergeSort_perm ..).mem_iff]
  simp only [List.mem_filterMap, List.mem_finRange, true_and, Option.map_eq_some_iff]
  constructor
  · rintro ⟨member, ⟨moment', ending⟩, hfinish, heq⟩
    cases heq
    exact hfinish
  · intro hfinish
    exact ⟨a.member, _, hfinish, rfl⟩

theorem mem_timedArrivals {moment : Moment} {a : Arrival d.size α} :
    (moment, a) ∈ d.timedArrivals ↔
      (d.team.get a.member).course.finish = some (moment, a.ending) ∧
        d.isInTime moment = true := by
  rw [timedArrivals_eq, List.mem_filter, mem_ends]

theorem moment_eq_of_mem_timedArrivals {moment moment' : Moment} {a : Arrival d.size α}
    (h : (moment, a) ∈ d.timedArrivals) (h' : (moment', a) ∈ d.timedArrivals) :
    moment = moment' := by
  have hfinish := (mem_timedArrivals.1 h).1
  rw [(mem_timedArrivals.1 h').1] at hfinish
  cases hfinish
  rfl

variable (d)

/-- The ends of tasks come one after the other. -/
theorem pairwise_ends : d.ends.Pairwise fun a b => b.1.isBefore a.1 = false :=
  Moment.pairwise_mergeSort Prod.fst _

theorem pairwise_timedArrivals :
    d.timedArrivals.Pairwise fun a b => b.1.isBefore a.1 = false := by
  rw [timedArrivals_eq]
  exact d.pairwise_ends.sublist List.filter_sublist

variable {d}

/-- The last end that comes in time does not come before any other. -/
theorem not_isBefore_of_getLast? {last : Moment × Arrival d.size α}
    (h : d.timedArrivals.getLast? = some last) :
    ∀ arrival ∈ d.timedArrivals, last.1.isBefore arrival.1 = false := by
  obtain ⟨before, hbefore⟩ := List.getLast?_eq_some_iff.1 h
  have hsorted := d.pairwise_timedArrivals
  rw [hbefore] at hsorted ⊢
  intro arrival harrival
  rcases List.mem_append.1 harrival with hmem | hmem
  · exact (List.pairwise_append.1 hsorted).2.2 _ hmem _ (List.mem_singleton_self _)
  · rw [List.mem_singleton.1 hmem]
    exact Moment.isBefore_irrefl last.1

/-- The deadline is not earlier than the settings say. -/
theorem ms_le_deadline {deadline : Moment} (h : d.deadline? = some deadline) :
    ∃ ms, d.settings.deadline? d.start.ms = some ms ∧ ms ≤ deadline.ms := by
  obtain ⟨ms, hms, rfl⟩ := Option.map_eq_some_iff.1 h
  refine ⟨ms, hms, ?_⟩
  split
  · exact Nat.le_refl ms
  · rw [Moment.ms_after]
    omega

/-- What comes in an earlier millisecond than the settings say comes before the deadline. -/
theorem isInTime_of_ms_lt {moment : Moment}
    (h : ∀ ms, d.settings.deadline? d.start.ms = some ms → moment.ms < ms) :
    d.isInTime moment = true := by
  unfold isInTime
  split
  · next deadline hdeadline =>
    obtain ⟨ms, hms, hle⟩ := ms_le_deadline hdeadline
    exact Moment.isBefore_of_ms_lt ((h ms hms).trans_le hle)
  · rfl

theorem start_le_deadline {deadline : Moment} (h : d.deadline? = some deadline) :
    d.start.ms ≤ deadline.ms := by
  obtain ⟨ms, hms, hle⟩ := ms_le_deadline h
  unfold Settings.deadline? at hms
  split at hms <;> cases hms
  omega

/-! ### Looks -/

theorem le_ms_looksAfter (look : Moment) (moments : List Moment) :
    ∀ next ∈ looksAfter look moments, look.ms ≤ next.ms := by
  induction moments generalizing look with
  | nil => exact nofun
  | cons moment rest ih =>
    have hnext : look.ms ≤ (if moment.isBefore look then look else moment.reply 0).ms := by
      split
      · exact Nat.le_refl _
      · next h => exact Moment.ms_le_of_not_isBefore (a := moment) (Bool.eq_false_iff.2 h)
    intro next hmem
    rcases List.mem_cons.1 hmem with rfl | hmem
    · exact hnext
    · exact hnext.trans (ih _ next hmem)

/-- Who has looked before all of some moments looks at each of them in its millisecond. -/
theorem ms_looksAfter {look : Moment} {moments : List Moment}
    (first : ∀ moment ∈ moments, look.ms ≤ moment.ms)
    (sorted : moments.Pairwise fun a b => a.ms ≤ b.ms) :
    (looksAfter look moments).map Moment.ms = moments.map Moment.ms := by
  induction moments generalizing look with
  | nil => rfl
  | cons moment rest ih =>
    obtain ⟨hmoment, hrest⟩ := List.pairwise_cons.1 sorted
    have hms : (if moment.isBefore look then look else moment.reply 0).ms = moment.ms := by
      split
      · next h =>
        exact Nat.le_antisymm (first moment List.mem_cons_self) (Moment.ms_le_of_isBefore h)
      · rfl
    rw [looksAfter, List.map_cons, List.map_cons, hms,
      ih (fun next hnext => hms.le.trans (hmoment next hnext)) hrest]

theorem ms_lookAfterRound (steps : List Moment) (moment : Moment) :
    (lookAfterRound steps moment).ms = moment.ms := by
  unfold lookAfterRound
  dsimp only
  generalize min _ _ - 1 = index
  cases h : (steps.filter fun step => step.ms = moment.ms)[index]? with
  | none => rfl
  | some step => simpa using (List.mem_filter.1 (List.mem_of_getElem? h)).2

theorem eraseReps_loop_sublist (a : Moment) (rest kept : List Moment) :
    (List.eraseRepsBy.loop (· == ·) a rest kept).Sublist (kept.reverse ++ a :: rest) := by
  induction rest generalizing a kept with
  | nil => simp [List.eraseRepsBy.loop]
  | cons b rest ih =>
    rw [List.eraseRepsBy.loop]
    split
    · exact (ih a kept).trans (by simp)
    · simpa using ih b (a :: kept)

theorem mem_eraseReps_loop (a : Moment) (rest kept : List Moment) {moment : Moment}
    (h : moment ∈ kept.reverse ++ a :: rest) :
    moment ∈ List.eraseRepsBy.loop (· == ·) a rest kept := by
  induction rest generalizing a kept with
  | nil => simpa [List.eraseRepsBy.loop, or_comm] using h
  | cons b rest ih =>
    rw [List.eraseRepsBy.loop]
    split
    · next heq =>
      cases eq_of_beq heq
      exact ih _ kept (by simpa using h)
    · exact ih b (a :: kept) (by simpa using h)

/-- The steps in which something is noted, in the order of time. -/
def steps (d : Dispatch α) : List Moment := (d.teamLog.inOrder.map Note.moment).eraseReps

theorem pairwise_steps : d.steps.Pairwise fun a b => b.isBefore a = false := by
  have hsorted : (d.teamLog.inOrder.map Note.moment).Pairwise fun a b => b.isBefore a = false :=
    List.pairwise_map.2 (Moment.pairwise_mergeSort Note.moment d.teamLog)
  have hsublist : d.steps.Sublist (d.teamLog.inOrder.map Note.moment) := by
    unfold steps
    cases d.teamLog.inOrder.map Note.moment with
    | nil => exact .slnil
    | cons a rest => exact eraseReps_loop_sublist a rest []
  exact hsorted.sublist hsublist

theorem mem_steps {note : Note} (h : note ∈ d.teamLog) : note.moment ∈ d.steps := by
  have hmem : note.moment ∈ d.teamLog.inOrder.map Note.moment :=
    List.mem_map_of_mem ((List.mergeSort_perm ..).mem_iff.2 h)
  unfold steps
  generalize d.teamLog.inOrder.map Note.moment = moments at hmem
  cases moments with
  | nil => cases hmem
  | cons a rest => exact mem_eraseReps_loop a rest [] hmem

/-- The outermost call does not look at a step before this comes. -/
theorem not_isBefore_lookAfterRound {steps : List Moment}
    (sorted : steps.Pairwise fun a b => b.isBefore a = false) {moment : Moment}
    (h : moment ∈ steps) : (lookAfterRound steps moment).isBefore moment = false := by
  unfold lookAfterRound
  dsimp only
  have hmem : moment ∈ steps.filter fun step => step.ms = moment.ms :=
    List.mem_filter.2 ⟨h, by simp⟩
  replace sorted := sorted.sublist (List.filter_sublist (p := fun step => step.ms = moment.ms))
  generalize steps.filter (fun step => step.ms = moment.ms) = steps at hmem sorted
  have hindex := List.idxOf_lt_length_of_mem hmem
  -- the round ends with the step or after it
  have hround : steps.idxOf moment ≤
      min ((steps.idxOf moment / round + 1) * round) steps.length - 1 := by
    rw [round]
    omega
  have hlast : min ((steps.idxOf moment / round + 1) * round) steps.length - 1 < steps.length := by
    omega
  generalize min ((steps.idxOf moment / round + 1) * round) steps.length - 1 = last at hround hlast
  rw [List.getElem?_eq_getElem hlast, Option.getD_some]
  rcases Nat.eq_or_lt_of_le hround with heq | hlt
  · subst heq
    rw [List.getElem_idxOf]
    exact Moment.isBefore_irrefl moment
  · have hpair := List.pairwise_iff_getElem.1 sorted _ _ hindex hlast hlt
    rwa [List.getElem_idxOf] at hpair

theorem start_le_of_mem_looks (inner : d.isOutermost = false) :
    ∀ look ∈ d.looks, d.start.ms ≤ look.ms := by
  intro look hlook
  unfold looks at hlook
  rw [inner, if_neg Bool.false_ne_true] at hlook
  split at hlook
  · next deadline hdeadline =>
    obtain ⟨next, hnext, rfl⟩ := List.mem_map.1 hlook
    unfold Moment.earlier
    split
    · exact le_ms_looksAfter _ _ next hnext
    · exact start_le_deadline hdeadline
  · exact le_ms_looksAfter _ _ look hlook

/-- A call looks at the end of a task in the millisecond in which it comes. -/
theorem ms_looks (forward : d.IsForward) :
    d.looks.map Moment.ms = d.timedArrivals.map fun arrival => arrival.1.ms := by
  have hsorted : (d.timedArrivals.map Prod.fst).Pairwise fun a b => a.ms ≤ b.ms :=
    List.pairwise_map.2 (d.pairwise_timedArrivals.imp Moment.ms_le_of_not_isBefore)
  have hfirst : ∀ moment ∈ d.timedArrivals.map Prod.fst, d.start.ms ≤ moment.ms := by
    intro moment hmoment
    obtain ⟨⟨_, a⟩, ha, rfl⟩ := List.mem_map.1 hmoment
    exact forward _ (List.get_mem ..) _ (mem_timedArrivals.1 ha).1
  have hinner := (ms_looksAfter hfirst hsorted).trans List.map_map
  unfold looks
  dsimp only
  split
  · rw [List.map_map, List.map_map]
    exact List.map_congr_left fun _ _ => ms_lookAfterRound ..
  · cases hdeadline : d.deadline? with
    | none => exact hinner
    | some deadline =>
      -- what comes before the deadline is not looked at after its millisecond
      refine Eq.trans ?_ hinner
      rw [List.map_map]
      refine List.map_congr_left fun look hlook => ?_
      have hms : look.ms ∈ d.timedArrivals.map fun arrival => arrival.1.ms := by
        rw [show (d.timedArrivals.map fun arrival => arrival.1.ms) = _ from hinner.symm]
        exact List.mem_map_of_mem hlook
      obtain ⟨⟨moment, a⟩, ha, hms⟩ := List.mem_map.1 hms
      have htime := (mem_timedArrivals.1 ha).2
      unfold isInTime at htime
      rw [hdeadline] at htime
      have hle := Moment.ms_le_of_isBefore htime
      unfold Moment.earlier
      dsimp only [Function.comp]
      split
      · rfl
      · next h =>
        have := Moment.ms_le_of_not_isBefore (Bool.eq_false_iff.2 h)
        dsimp only at hms
        omega

/-- What a call takes notice of is, in the same order, what comes in time. -/
theorem exists_index_of_mem_timedReceived {look : Moment} {a : Arrival d.size α}
    (h : (look, a) ∈ d.timedReceived) :
    ∃ (i : Nat) (moment : Moment),
      d.looks[i]? = some look ∧ d.timedArrivals[i]? = some (moment, a) := by
  obtain ⟨i, hi, hget⟩ := List.mem_iff_getElem.1 h
  obtain ⟨rfl, rfl⟩ := Prod.mk.inj (List.getElem_zip.symm.trans hget)
  have hpre := d.toOperation.received_prefix d.arrivals
  have hreceived : i < (d.toOperation.received d.arrivals).length :=
    Nat.lt_of_lt_of_le hi (by simp [timedReceived, List.length_zip])
  have hlength : i < d.timedArrivals.length :=
    hreceived.trans_le (hpre.length_le.trans_eq (List.length_map ..))
  have harrival : (d.toOperation.received d.arrivals)[i] = d.timedArrivals[i].2 := by
    rw [hpre.getElem hreceived]
    exact List.getElem_map ..
  refine ⟨i, d.timedArrivals[i].1, List.getElem?_eq_getElem _, ?_⟩
  rw [harrival, List.getElem?_eq_getElem hlength]

/-- What a call takes notice of comes in time, in the millisecond in which the call looks. -/
theorem exists_of_mem_timedReceived (forward : d.IsForward) {look : Moment}
    {a : Arrival d.size α} (h : (look, a) ∈ d.timedReceived) :
    ∃ moment, (moment, a) ∈ d.timedArrivals ∧ look.ms = moment.ms := by
  obtain ⟨i, moment, hlook, hmoment⟩ := exists_index_of_mem_timedReceived h
  refine ⟨moment, List.mem_of_getElem? hmoment, ?_⟩
  have hms := congrArg (·[i]?) (ms_looks forward)
  simpa [hlook, hmoment] using hms

/-! ### The end of a call -/

/-- Whether the deadline passes before the call has its answer. -/
def isLate (d : Dispatch α) : Bool := d.toOperation.isLate d.arrivals

theorem finish?_of_isLate (late : d.isLate = true) : d.finish? = d.deadline? := if_pos late

/-- Unless its deadline passes, a call ends when it looks for the last time. -/
theorem finish?_of_punctual (punctual : d.isLate = false) :
    d.finish? = some ((d.timedReceived.getLast?.map Prod.fst).getD d.start) := by
  rw [isLate] at punctual
  rw [finish?, punctual, if_neg Bool.false_ne_true]
  cases d.timedReceived.getLast? <;> rfl

/-- Then it ends in the millisecond of the last end that it takes notice of. -/
theorem exists_finish? (forward : d.IsForward) (punctual : d.isLate = false)
    {a : Arrival d.size α}
    (last : (d.toOperation.received d.arrivals).getLast? = some a) :
    ∃ finish moment, d.finish? = some finish ∧ (moment, a) ∈ d.timedArrivals ∧
      finish.ms = moment.ms := by
  rw [← map_snd_timedReceived, List.getLast?_map, Option.map_eq_some_iff] at last
  obtain ⟨⟨look, _⟩, hlast, rfl⟩ := last
  obtain ⟨moment, hmem, hms⟩ :=
    exists_of_mem_timedReceived forward (List.mem_of_getLast? hlast)
  refine ⟨look, moment, ?_, hmem, hms⟩
  rw [finish?_of_punctual punctual, hlast]
  rfl

/-- The ends of tasks are noted. -/
def IsNoted (d : Dispatch α) : Prop :=
  ∀ member ∈ d.team, ∀ finish ∈ member.course.finish,
    ∃ note ∈ member.course.log, note.moment = finish.1

/-- A call by itself that has taken notice of everything does not end before any of it. -/
theorem not_isBefore_finish? (outermost : d.isOutermost = true) (noted : d.IsNoted)
    (punctual : d.isLate = false) (all : d.toOperation.received d.arrivals = d.arrivals)
    {finish : Moment} (h : d.finish? = some finish) :
    ∀ arrival ∈ d.timedArrivals, finish.isBefore arrival.1 = false := by
  have hsnd : d.timedArrivals.map Prod.snd = d.timedReceived.map Prod.snd := by
    rw [map_snd_timedReceived, all, arrivals]
  rw [finish?_of_punctual punctual, Option.some.injEq] at h
  intro arrival harrival
  cases hlast : d.timedReceived.getLast? with
  | none =>
    rw [List.getLast?_eq_none_iff.1 hlast, List.map_nil, List.map_eq_nil_iff] at hsnd
    rw [hsnd] at harrival
    cases harrival
  | some received =>
    obtain ⟨look, a⟩ := received
    rw [hlast] at h
    replace h : look = finish := h
    -- the last end that is looked at is the last one that comes
    have hlast' := congrArg List.getLast? hsnd
    rw [List.getLast?_map, List.getLast?_map, hlast, Option.map_some,
      Option.map_eq_some_iff] at hlast'
    obtain ⟨⟨moment, _⟩, hlast', rfl⟩ := hlast'
    have hmem := List.mem_of_getLast? hlast'
    obtain ⟨i, moment', hlook, hmoment'⟩ :=
      exists_index_of_mem_timedReceived (List.mem_of_getLast? hlast)
    have hsame : moment' = moment :=
      moment_eq_of_mem_timedArrivals (List.mem_of_getElem? hmoment') hmem
    have hround : lookAfterRound d.steps moment = look := by
      rw [looks, outermost, if_pos rfl] at hlook
      simpa [hmoment', hsame, steps] using hlook
    have hstep : moment ∈ d.steps := by
      obtain ⟨note, hnote, hmoment⟩ :=
        noted _ (List.get_mem ..) _ (mem_timedArrivals.1 hmem).1
      rw [← show note.moment = moment from hmoment]
      exact mem_steps (List.mem_flatMap.2 ⟨_, List.get_mem .., hnote⟩)
    rw [← h, ← hround]
    exact Moment.not_isBefore_trans (not_isBefore_of_getLast? hlast' arrival harrival)
      (not_isBefore_lookAfterRound d.pairwise_steps hstep)

/-- A call inside another one does not end before it starts. -/
theorem start_le_finish? (inner : d.isOutermost = false) {finish : Moment}
    (h : d.finish? = some finish) : d.start.ms ≤ finish.ms := by
  cases hlate : d.isLate with
  | true =>
    rw [finish?_of_isLate hlate] at h
    exact start_le_deadline h
  | false =>
    rw [finish?_of_punctual hlate, Option.some.injEq] at h
    cases hlast : d.timedReceived.getLast? with
    | none =>
      rw [← h, hlast]
      exact Nat.le_refl _
    | some received =>
      rw [← h, hlast]
      exact start_le_of_mem_looks inner _ (List.of_mem_zip (List.mem_of_getLast? hlast)).1

end Dispatch

/-! ### Calls of pools -/

namespace Provider

variable {earlier : Log} {request : Request} {place : List Nat} {start : Moment}

/-- No provider ends before it is asked. -/
theorem start_le_finish (provider : Provider) :
    ∀ finish ∈ (course earlier request provider place start).finish, start.ms ≤ finish.1.ms := by
  rintro ⟨finish, ending⟩ h
  by_cases serves : provider.canServe request = true
  · cases provider with
    | single responder =>
      rw [course_single serves] at h
      obtain ⟨_, -, heq⟩ := Option.map_eq_some_iff.1 h
      cases heq
      rw [Moment.ms_after]
      exact Nat.le_add_right ..
    | pool settings members =>
      rw [course_pool serves] at h
      obtain ⟨_, hfinish, heq⟩ := Option.map_eq_some_iff.1 h
      cases heq
      exact Dispatch.start_le_finish? rfl hfinish
  · rw [course_of_not_canServe (Bool.eq_false_iff.2 serves)] at h
    cases h
    exact Nat.le_refl _

/-- Who is trusted with a request notes when it ends. -/
theorem exists_note_of_finish {provider : Provider} (serves : provider.canServe request = true) :
    ∀ finish ∈ (course earlier request provider place start).finish,
      ∃ note ∈ (course earlier request provider place start).log, note.moment = finish.1 := by
  rintro ⟨finish, ending⟩ h
  cases provider with
  | single responder =>
    rw [course_single serves] at h ⊢
    obtain ⟨_, hending, heq⟩ := Option.map_eq_some_iff.1 h
    cases heq
    rw [singleCourse, hending]
    exact ⟨_, List.mem_cons_of_mem _ (List.mem_singleton_self _), rfl⟩
  | pool settings members =>
    rw [course_pool serves] at h ⊢
    obtain ⟨_, hfinish, heq⟩ := Option.map_eq_some_iff.1 h
    cases heq
    refine ⟨⟨finish, place, .concluded⟩,
      Dispatch.mem_log_of_mem_ownLog (List.mem_append_right _ ?_), rfl⟩
    rw [hfinish]
    exact List.mem_singleton_self _

theorem start_le_finish_team {members : List Provider} {index : Nat} :
    ∀ member ∈ team earlier request members place index start,
      ∀ finish ∈ member.course.finish, start.ms ≤ finish.1.ms := by
  rw [team_eq]
  intro member hmember
  obtain ⟨⟨provider, number⟩, -, rfl⟩ := List.mem_map.1 hmember
  exact provider.start_le_finish

end Provider

namespace Pool

variable (pool : Pool) (earlier : Log) (request : Request)

theorem isForward_dispatch (policy : Policy request.Answer) :
    (pool.dispatch earlier request policy).IsForward := Provider.start_le_finish_team

theorem isNoted_dispatch (policy : Policy request.Answer) :
    (pool.dispatch earlier request policy).IsNoted := by
  intro member hmember
  have hteam : (pool.dispatch earlier request policy).team =
    Provider.team earlier request pool.members [] 0 (.opening 0) := rfl
  rw [hteam, Provider.team_eq] at hmember
  obtain ⟨⟨provider, number⟩, hnumbered, rfl⟩ := List.mem_map.1 hmember
  exact Provider.exists_note_of_finish (List.mem_filter.1 hnumbered).2

theorem isForward_dispatchAt (place : List Nat) (start : Moment) :
    (pool.dispatchAt earlier request place start).IsForward := Provider.start_le_finish_team

end Pool

end Beacon
