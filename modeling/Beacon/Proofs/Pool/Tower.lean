import Beacon.Proofs.Pool.Timing

/-!
# Pools of one member

A pool with a single member gives what this member gives, as it is. From one report either policy
chooses what the report says (`Choice.select_singleton`), and the failure of an only member is not
wrapped, so that the answer of a call is the result of its member (`Operation.answer_result`), or a
deadline in the name of the member if it is silent (`Operation.answer_nil`). Such a call ends in the
millisecond in which its member does (`Dispatch.exists_finish_result`).

By induction on the levels, this holds of pools of one member inside each other, `Provider.tower`.
`Pool.transparent` is the statement about the calls of pools.
-/

namespace Beacon

variable {n : Nat} {α : Type}

/-! ### Policies for one report -/

/-- What is chosen from a single report. -/
def Report.selection (report : Report α) : Selection α :=
  match report.outcome with
  | .success value => .found value
  | .notFound => .notFound
  | .failure cause => .failed [(report.endpoint, cause)]

namespace Choice

variable [BEq α] (choice : Choice)

theorem isSettled_nil : (choice.policy : Policy α).isSettled [] 1 = false := by
  cases choice <;> rfl

theorem isSettled_singleton (report : Report α) :
    (choice.policy : Policy α).isSettled [report] 1 = true := by
  cases choice <;> rfl

/-- From a single report either policy chooses what it says, even for a quorum of none. -/
theorem select_singleton [ReflBEq α] (report : Report α) {quorum : Nat} (h : quorum ≤ 1) :
    choice.policy.select [report] quorum = report.selection := by
  obtain ⟨endpoint, outcome⟩ := report
  cases choice with
  | firstSuccess => cases outcome <;> rfl
  | majority =>
    have hthreshold : Policy.threshold quorum = 1 := by
      unfold Policy.threshold
      omega
    cases outcome with
    | success value =>
      have hcount : [value].count value = 1 := by simp [List.count_cons]
      have hleading : Policy.leading (Tally.ofReports [⟨endpoint, .success value⟩]).values =
          some ⟨0, value, 1⟩ := by
        rw [← hcount]
        rfl
      show Policy.majority.select [⟨endpoint, .success value⟩] quorum = .found value
      simp only [Policy.majority, hleading, hthreshold]
      rfl
    | notFound =>
      show Policy.selectAbsent (Tally.ofReports [⟨endpoint, .notFound⟩]) quorum = .notFound
      rw [Policy.selectAbsent, hthreshold]
      rfl
    | failure cause =>
      show Policy.selectAbsent (Tally.ofReports [⟨endpoint, .failure cause⟩]) quorum =
        .failed [(endpoint, cause)]
      rw [Policy.selectAbsent, hthreshold]
      rfl

end Choice

/-! ### Calls to one member -/

theorem Deeds.arrivals_eq (only : n = 1) (deeds : Deeds n α) (member : Fin n) :
    deeds.arrivals = ((deeds member).map (Arrival.mk member)).toList := by
  subst only
  cases Subsingleton.elim 0 member
  unfold arrivals
  cases h : deeds 0 <;> simp [List.finRange, h]

namespace Operation

variable {op : Operation n α}

/-- The failure of an only member is not wrapped. -/
theorem conclude_selection (alone : op.isAlone = true) (endpoint : String)
    (result : Except Failure (Option α)) :
    op.conclude (Report.selection ⟨endpoint, .ofResult result⟩) = result := by
  rcases result with cause | _ | value <;>
    simp [conclude, Report.selection, Outcome.ofResult, alone]

variable [BEq α] {choice : Choice} (only : n = 1) (policy : op.policy = choice.policy)

include only policy

theorem isSettledBy_nil : op.isSettledBy [] = false := by
  subst only
  rw [isSettledBy, policy]
  exact choice.isSettled_nil

theorem isSettledBy_result {a : Arrival n α} {result : Except Failure (Option α)}
    (h : a.ending = .result result) : op.isSettledBy [a] = true := by
  obtain ⟨member, ending⟩ := a
  cases h
  subst only
  rw [isSettledBy, policy]
  exact choice.isSettled_singleton _

/-- The call takes notice of its member. -/
theorem received_singleton (a : Arrival n α) : op.received [a] = [a] := by
  cases hs : op.isSettledBy (op.received [a]) with
  | false => exact op.received_eq hs
  | true =>
    rcases List.prefix_cons_iff.1 (op.received_prefix [a]) with hnil | ⟨rest, hall, hrest⟩
    · rw [hnil, isSettledBy_nil only policy] at hs
      cases hs
    · rw [hall, List.prefix_nil.1 hrest]

theorem isLate_singleton (a : Arrival n α) : op.isLate [a] = false := by
  subst only
  rw [isLate_eq]
  simp

theorem isLate_nil : op.isLate [] = true := by
  rw [isLate_eq, List.prefix_nil.1 (op.received_prefix []), isSettledBy_nil only policy]
  subst only
  rfl

variable [ReflBEq α] (alone : op.isAlone = true)

include alone

/-- The result of the only member is the answer, as it is. -/
theorem answer_result {a : Arrival n α} {result : Except Failure (Option α)}
    (h : a.ending = .result result) : op.answer [a] = result := by
  have hballot : op.ballot [a] = [⟨op.address a.member, .ofResult result⟩] := by
    rw [ballot_eq, received_singleton only policy, isSettledBy_result only policy h]
    simp [reports, Arrival.report?, h]
  have hquorum : op.quorum [a] ≤ 1 := by
    rw [quorum_eq, isLate_singleton only policy]
    exact only.le
  rw [answer, hballot, policy, choice.select_singleton _ hquorum, conclude_selection alone]

/-- If the only member is silent, the answer is that the deadline has passed, in its name. -/
theorem answer_nil (member : Fin n) :
    op.answer [] = .error (.deadline op.name (op.address member)) := by
  have hballot : op.ballot [] =
      [⟨op.address member, .failure (.deadline op.name (op.address member))⟩] := by
    rw [ballot_eq, List.prefix_nil.1 (op.received_prefix []), isSettledBy_nil only policy]
    subst only
    cases Subsingleton.elim 0 member
    rfl
  have hquorum : op.quorum [] ≤ 1 := by
    rw [quorum_eq, List.prefix_nil.1 (op.received_prefix [])]
    split
    · exact Nat.zero_le 1
    · exact only.le
  rw [answer, hballot, policy, choice.select_singleton _ hquorum]
  exact conclude_selection alone _ (.error _)

end Operation

namespace Dispatch

variable {d : Dispatch α} {member : Member α}

/-- A call to one member meets what this member does by the deadline. -/
theorem exists_arrivals_eq (team : d.team = [member]) :
    d.size = 1 ∧ ∃ first, d.team.get first = member ∧
      d.arrivals = ((d.deeds first).map (Arrival.mk first)).toList := by
  have only : d.size = 1 := by
    rw [size, team]
    rfl
  let first : Fin d.size := ⟨0, only ▸ Nat.one_pos⟩
  have horder := d.arrivals_perm
  rw [Deeds.arrivals_eq only _ first] at horder
  refine ⟨only, first, by simp [first, team], ?_⟩
  cases hdeed : d.deeds first with
  | none =>
    rw [hdeed] at horder
    exact List.perm_nil.1 horder
  | some ending =>
    rw [hdeed] at horder
    exact List.perm_singleton.1 horder

variable [BEq α] [ReflBEq α] {choice : Choice} (team : d.team = [member])
  (policy : d.policy = choice.policy) (alone : d.isAlone = true)

include team policy alone

/-- If the only member gives a result in time, the call gives the same in the same millisecond. -/
theorem exists_finish_result (forward : d.IsForward) {moment : Moment}
    {result : Except Failure (Option α)}
    (h : member.course.finish = some (moment, .result result))
    (inTime : d.isInTime moment = true) :
    ∃ finish, d.course.finish = some (finish, .result result) ∧ finish.ms = moment.ms := by
  obtain ⟨only, first, hget, harrivals⟩ := exists_arrivals_eq team
  have hdeed : d.deeds first = some (.result result) := by
    rw [deeds, hget, h]
    simp [Option.filter, inTime]
  replace harrivals : d.arrivals = [⟨first, .result result⟩] := by
    rw [harrivals, hdeed]
    rfl
  have punctual : d.isLate = false := by
    rw [isLate, harrivals]
    exact Operation.isLate_singleton only policy _
  have hlast : (d.toOperation.received d.arrivals).getLast? = some ⟨first, .result result⟩ := by
    rw [harrivals, Operation.received_singleton only policy]
    rfl
  obtain ⟨finish, moment', hfinish, hmem, hms⟩ := exists_finish? forward punctual hlast
  have hmoment := (mem_timedArrivals.1 hmem).1
  rw [hget, h] at hmoment
  cases hmoment
  refine ⟨finish, ?_, hms⟩
  rw [course, hfinish, harrivals, Operation.answer_result only policy alone rfl]
  rfl

/-- If the only member is silent until the deadline, the call ends with a failure in its name. -/
theorem finish_deadline (outermost : d.isOutermost = true) {deadline : Nat}
    (hdeadline : d.settings.deadline? d.start.ms = some deadline)
    (silent : ∀ finish ∈ member.course.finish, deadline ≤ finish.1.ms) :
    d.course.finish =
      some (.opening deadline, .result (.error (.deadline d.operation member.address))) := by
  obtain ⟨only, first, hget, harrivals⟩ := exists_arrivals_eq team
  have hopening : d.deadline? = some (.opening deadline) := by
    rw [deadline?, hdeadline, Option.map_some, outermost, if_pos rfl]
  have hdeed : d.deeds first = none := by
    rw [deeds, hget, Option.map_eq_none_iff, Option.filter_eq_none_iff]
    intro finish hfinish
    unfold isInTime
    rw [hopening, Moment.isBefore_opening_iff, Nat.not_lt]
    exact silent finish hfinish
  replace harrivals : d.arrivals = [] := by
    rw [harrivals, hdeed]
    rfl
  have hlate : d.isLate = true := by
    rw [isLate, harrivals]
    exact Operation.isLate_nil only policy
  have hanswer : d.toOperation.answer [] = .error (.deadline d.operation member.address) := by
    rw [Operation.answer_nil only policy alone first, ← hget]
    rfl
  rw [course, finish?_of_isLate hlate, hopening, harrivals, hanswer]
  rfl

end Dispatch

/-! ### Towers -/

namespace Provider

/-- Pools of one member inside each other, the outermost first, around a provider. -/
def tower : List Settings → Provider → Provider
  | [], provider => provider
  | settings :: levels, provider => .pool settings [provider.tower levels]

variable {earlier : Log} {request : Request} {provider : Provider}

theorem canServe_tower (levels : List Settings) :
    (provider.tower levels).canServe request = provider.canServe request := by
  induction levels with
  | nil => rfl
  | cons settings levels ih =>
    rw [tower, canServe_pool, List.any_cons, List.any_nil, Bool.or_false, ih]

theorem team_singleton (serves : provider.canServe request = true) (place : List Nat)
    (start : Moment) :
    team earlier request [provider] place 0 start =
      [⟨provider.address, course earlier request provider (place ++ [0]) (start.step 0)⟩] := by
  rw [team_eq]
  simp [serves]

/-- What the provider in a tower gives goes up through all levels, if none of their deadlines passes
before. -/
theorem exists_finish_tower (serves : provider.canServe request = true) (levels : List Settings)
    (place : List Nat) (start : Moment) {moment : Moment}
    {result : Except Failure (Option request.Answer)}
    (h : (course earlier request provider (place ++ List.replicate levels.length 0)
      ((Moment.step · 0)^[levels.length] start)).finish = some (moment, .result result))
    (inTime : ∀ settings ∈ levels, ∀ ms, settings.deadline? start.ms = some ms →
      moment.ms < ms) :
    ∃ finish, (course earlier request (provider.tower levels) place start).finish =
        some (finish, .result result) ∧ finish.ms = moment.ms := by
  -- induction from above, so that place and start go down with the levels
  induction levels generalizing place start with
  | nil => exact ⟨moment, by simpa [tower] using h, rfl⟩
  | cons settings levels ih =>
    obtain ⟨finish, hfinish, hms⟩ := ih (place ++ [0]) (start.step 0)
      (by simpa [List.replicate_succ] using h)
      (fun settings' hmem => inTime settings' (List.mem_cons_of_mem _ hmem))
    have hserves : (provider.tower levels).canServe request = true := by
      rw [canServe_tower, serves]
    have hpool : (pool settings [provider.tower levels]).canServe request = true := by
      rw [canServe_pool, List.any_cons, hserves, Bool.true_or]
    let pool : Pool := ⟨settings, [provider.tower levels]⟩
    have hinTime : (pool.dispatchAt earlier request place start).isInTime finish = true := by
      refine Dispatch.isInTime_of_ms_lt fun ms hdeadline => ?_
      rw [hms]
      exact inTime settings List.mem_cons_self ms hdeadline
    obtain ⟨finish', hfinish', hms'⟩ := Dispatch.exists_finish_result
      (d := pool.dispatchAt earlier request place start) (team_singleton hserves place start)
      (show _ = Choice.firstSuccess.policy from rfl) rfl
      (pool.isForward_dispatchAt earlier request place start) hfinish hinTime
    refine ⟨finish', ?_, hms'.trans hms⟩
    rw [tower, course_pool hpool, hfinish']

end Provider

/-- **Transparency.** A call of a pool with a single member gives the result of this member as it
is, be it a value, that there is no such thing, or an error, in the same millisecond, if no deadline
passes before; and so does a call of a tower of such pools. If its deadline passes first, the call
fails with that, in the name of the member. -/
theorem Pool.transparent {provider : Provider} {request : Request}
    (serves : provider.canServe request = true) (earlier : Log) (settings : Settings)
    (choice : Choice) :
    (∀ levels moment result,
      (Provider.course earlier request provider (List.replicate (levels.length + 1) 0)
        ((Moment.step · 0)^[levels.length + 1] (.opening 0))).finish =
          some (moment, .result result) →
      (∀ level ∈ settings :: levels, ∀ deadline, level.deadline? 0 = some deadline →
        moment.ms < deadline) →
      ∃ finish, ((⟨settings, [provider.tower levels]⟩ : Pool).call earlier request
          choice.policy).finish = some (finish, .result result) ∧ finish.ms = moment.ms) ∧
    ∀ deadline, settings.deadline? 0 = some deadline →
      (∀ finish ∈ (Provider.course earlier request provider [0]
        ((Moment.opening 0).step 0)).finish, deadline ≤ finish.1.ms) →
      ((⟨settings, [provider]⟩ : Pool).call earlier request choice.policy).finish =
        some (.opening deadline,
          .result (.error (.deadline request.operation provider.address))) := by
  have hserves (levels : List Settings) :
      (provider.tower levels).canServe request = true := by
    rw [Provider.canServe_tower, serves]
  have hpool {member : Provider} (h : member.canServe request = true) :
      (Pool.mk settings [member]).toProvider.canServe request = true := by
    rw [toProvider, Provider.canServe_pool, List.any_cons, h, Bool.true_or]
  refine ⟨fun levels moment result hfinish inTime => ?_, fun deadline hdeadline silent => ?_⟩
  · obtain ⟨finish, htower, hms⟩ := Provider.exists_finish_tower serves levels [0] _ hfinish
      fun level hlevel => inTime level (List.mem_cons_of_mem _ hlevel)
    let pool : Pool := ⟨settings, [provider.tower levels]⟩
    have hinTime : (pool.dispatch earlier request choice.policy).isInTime finish = true := by
      refine Dispatch.isInTime_of_ms_lt fun deadline hdeadline => ?_
      rw [hms]
      exact inTime settings List.mem_cons_self deadline hdeadline
    obtain ⟨finish', hcall, hms'⟩ := Dispatch.exists_finish_result
      (d := pool.dispatch earlier request choice.policy)
      (Provider.team_singleton (hserves levels) [] (.opening 0)) rfl rfl
      (pool.isForward_dispatch earlier request choice.policy) htower hinTime
    refine ⟨finish', ?_, hms'.trans hms⟩
    rw [call_eq (hpool (hserves levels)), hcall]
  · rw [call_eq (hpool serves)]
    exact Dispatch.finish_deadline
      (d := (Pool.mk settings [provider]).dispatch earlier request choice.policy)
      (Provider.team_singleton serves [] (.opening 0)) rfl rfl rfl hdeadline silent

/-- A node that cannot be reached, as it says after 5 ms: in pools inside each other that wait for
100 ms, and in a pool that waits for 3 ms only. -/
theorem Pool.transparent_unreachable :
    let node : Provider := .single (.steady "http://a" .all 5
      (some (.result (.error (.transport "http://a" "refused")))))
    node.canServe .nodeVersion = true ∧
      (∃ finish, ((⟨{ timeout := ⟨100000000⟩ }, [node.tower [{ timeout := ⟨100000000⟩ }]]⟩ :
          Pool).call [] .nodeVersion Choice.majority.policy).finish =
        some (finish, .result (.error (.transport "http://a" "refused"))) ∧ finish.ms = 5) ∧
      ((⟨{ timeout := ⟨3000000⟩ }, [node]⟩ : Pool).call [] .nodeVersion
          Choice.firstSuccess.policy).finish =
        some (.opening 3, .result (.error (.deadline "node version" "http://a"))) := by
  intro node
  have serves : node.canServe .nodeVersion = true := rfl
  refine ⟨serves, ?_, ?_⟩
  · have hlimit : Settings.deadline? { timeout := ⟨100000000⟩ } 0 = some 100 := rfl
    refine (Pool.transparent serves [] { timeout := ⟨100000000⟩ } .majority).1
      [{ timeout := ⟨100000000⟩ }] _ _ rfl ?_
    intro level hlevel deadline hdeadline
    have hlevel : level = { timeout := ⟨100000000⟩ } := by simpa using hlevel
    rw [hlevel, hlimit] at hdeadline
    cases hdeadline
    decide
  · refine (Pool.transparent serves [] { timeout := ⟨3000000⟩ } .firstSuccess).2 3 rfl ?_
    rintro finish ⟨⟩
    decide

end Beacon
