import Beacon.Proofs.Pool.Racing

/-!
# Nodes in groups

Nodes may be asked all at once by one pool, or in groups, each a pool that is a member of another
one. By the first value both come to the same: the nodes race in both cases, and a race of races is
a race of all (`Decides.flatMap`). The exception are groups that are still racing when another group
has won; no value of theirs can have come before.

The two calls have different places and may come after different ones. That the nodes do the same in
both is said by `Group.entrants`. `Pool.regroup` is the statement.
-/

namespace Beacon

/-- Nodes that are asked as a pool. -/
structure Group where
  settings : Settings
  nodes : List Responder

/-- What a node does when it is asked. -/
abbrev Entrant (α : Type) := Responder × Act α

namespace Group

/-- The pool of the nodes. -/
def pool (group : Group) : Pool := ⟨group.settings, group.nodes.map .single⟩

/-- What the nodes do in a call of a pool at a place, after what an earlier log tells. -/
def entrants (group : Group) (earlier : Log) (request : Request) (place : List Nat) :
    List (Entrant request.Answer) :=
  group.nodes.zipIdx.map fun (node, number) =>
    (node, node.act request (earlier.starts (place ++ [number])))

/-- The call of the pool as a member of a call by itself. -/
def dispatchIn (group : Group) (earlier : Log) (request : Request) (number : Nat) :
    Dispatch request.Answer :=
  group.pool.dispatchAt earlier request [number] ((Moment.opening 0).step number)

/-- All nodes of some groups in one group. -/
def join (settings : Settings) (groups : List Group) : Group :=
  ⟨settings, groups.flatMap Group.nodes⟩

end Group

/-- The pool of the pools of some groups. -/
def Pool.ofGroups (settings : Settings) (groups : List Group) : Pool :=
  ⟨settings, groups.map fun group => group.pool.toProvider⟩

namespace Entrant

variable {request : Request}

/-- Whether a node is trusted with the request. -/
def isTrusted (request : Request) (entrant : Entrant request.Answer) : Bool :=
  (Provider.single entrant.1).canServe request

/-- Whether a node is trusted with the request and comes to an end. -/
def isEnding (request : Request) (entrant : Entrant request.Answer) : Bool :=
  isTrusted request entrant && entrant.2.ending.isSome

/-- A node as a racer. -/
def racer (entrant : Entrant request.Answer) : Racer request.Answer where
  address := entrant.1.address
  finish? := entrant.2.ending.map fun ending => (entrant.2.delay, ending)

theorem value?_racer {entrant : Entrant request.Answer} {ms : Nat} {value : request.Answer} :
    entrant.racer.value? = some (ms, value) ↔
      entrant.2.ending = some (.result (.ok (some value))) ∧ entrant.2.delay = ms := by
  unfold racer Racer.value?
  rcases entrant.2.ending with _ | (_ | _ | _) | _ <;> simp [and_comm]

end Entrant

/-- The nodes that are trusted with the request, as racers. -/
def racersOf {request : Request} (entrants : List (Entrant request.Answer)) :
    List (Racer request.Answer) :=
  (entrants.filter (Entrant.isTrusted request)).map Entrant.racer

namespace Group

variable {group : Group} {earlier : Log} {request : Request}

theorem map_racer_team (place : List Nat) {start : Moment} (h : start.ms = 0) :
    (Provider.team earlier request group.pool.members place 0 start).map Member.racer =
      racersOf (group.entrants earlier request place) := by
  rw [Provider.team_eq, pool, List.zipIdx_map, List.filter_map, List.map_map, List.map_map,
    racersOf, entrants, List.filter_map, List.map_map]
  refine List.map_congr_left fun (node, number) hnumbered => ?_
  have serves : (Provider.single node).canServe request = true := (List.mem_filter.1 hnumbered).2
  have hms (delay : Nat) : ((start.step number).after delay).ms = delay := by
    rw [Moment.ms_after, show (start.step number).ms = 0 from h, Nat.zero_add]
  show Member.racer ⟨node.address,
    Provider.course earlier request (.single node) (place ++ [number]) (start.step number)⟩ = _
  rw [Provider.course_single serves, Member.racer, Provider.singleCourse, Option.map_map]
  simp only [Function.comp_def, hms]
  rfl

theorem canServe_pool : group.pool.toProvider.canServe request =
    group.nodes.any fun node => (Provider.single node).canServe request := by
  rw [Pool.toProvider, Provider.canServe_pool, pool, List.any_map]
  rfl

/-- Where nobody is trusted with the request, nobody races. -/
theorem racersOf_entrants_eq_nil (h : group.pool.toProvider.canServe request = false)
    (earlier : Log) (place : List Nat) : racersOf (group.entrants earlier request place) = [] := by
  rw [canServe_pool, List.any_eq_false] at h
  rw [racersOf, List.map_eq_nil_iff, List.filter_eq_nil_iff]
  intro entrant hentrant
  obtain ⟨⟨node, number⟩, hnode, rfl⟩ := List.mem_map.1 hentrant
  exact h node (List.fst_mem_of_mem_zipIdx hnode)

end Group

/-- Two values in different milliseconds are of different nodes. -/
theorem value_eq_of_distinct {request : Request} {entrants : List (Entrant request.Answer)}
    (distinct : ((entrants.filter (Entrant.isEnding request)).map fun entrant =>
      entrant.2.delay).Nodup) :
    ∀ racer ∈ racersOf entrants, ∀ racer' ∈ racersOf entrants, ∀ ms value value',
      racer.value? = some (ms, value) → racer'.value? = some (ms, value') → value = value' := by
  have ending {entrant : Entrant request.Answer} {ms : Nat} {value : request.Answer}
      (h : entrant ∈ entrants.filter (Entrant.isTrusted request))
      (hvalue : entrant.racer.value? = some (ms, value)) :
      entrant ∈ entrants.filter (Entrant.isEnding request) := by
    obtain ⟨hmem, htrusted⟩ := List.mem_filter.1 h
    refine List.mem_filter.2 ⟨hmem, ?_⟩
    rw [Entrant.isEnding, htrusted, (Entrant.value?_racer.1 hvalue).1]
    rfl
  intro racer hracer racer' hracer' ms value value' hvalue hvalue'
  obtain ⟨entrant, hentrant, rfl⟩ := List.mem_map.1 hracer
  obtain ⟨entrant', hentrant', rfl⟩ := List.mem_map.1 hracer'
  have hdelay : entrant.2.delay = entrant'.2.delay :=
    (Entrant.value?_racer.1 hvalue).2.trans (Entrant.value?_racer.1 hvalue').2.symm
  have hsame := List.inj_on_of_nodup_map distinct (ending hentrant hvalue)
    (ending hentrant' hvalue') hdelay
  rw [hsame, hvalue'] at hvalue
  exact ((Prod.mk.inj (Option.some.inj hvalue)).2).symm

/-! ### The call of a pool of groups -/

/-- In a call of a pool of groups no deadline passes: not its own, and not that of a group, unless
the call is over before. -/
structure Pool.IsInTime (settings : Settings) (groups : List Group) (earlier : Log)
    (request : Request) : Prop where
  /-- Its own does not pass. -/
  outer : ((Pool.ofGroups settings groups).dispatch earlier request .firstSuccess).isLate = false
  /-- If that of a group passes, the call is over before. -/
  inner : ∀ group number, (group, number) ∈ groups.zipIdx →
    (group.dispatchIn earlier request number).isLate = true →
    ∀ deadline, (group.dispatchIn earlier request number).finish? = some deadline →
      ∃ finish, ((Pool.ofGroups settings groups).dispatch earlier request .firstSuccess).finish? =
        some finish ∧ finish.isBefore deadline = true

namespace Group

variable {group : Group} {groups : List Group} {settings : Settings} {earlier : Log}
  {request : Request} {number : Nat}

/-- The groups that are trusted with a request, each with its number. -/
def trusted (groups : List Group) (request : Request) : List (Group × Nat) :=
  groups.zipIdx.filter fun numbered => numbered.1.pool.toProvider.canServe request

/-- A group as a racer. -/
def lead (group : Group) (earlier : Log) (request : Request) (number : Nat) :
    Racer request.Answer :=
  Member.racer ⟨group.pool.toProvider.address, (group.dispatchIn earlier request number).course⟩

theorem racers_ofGroups :
    ((Pool.ofGroups settings groups).dispatch earlier request .firstSuccess).racers =
      (trusted groups request).map fun numbered =>
        numbered.1.lead earlier request numbered.2 := by
  show (Provider.team earlier request (groups.map fun group => group.pool.toProvider) [] 0
    (.opening 0)).map Member.racer = _
  rw [Provider.team_eq, List.zipIdx_map, List.filter_map, List.map_map, List.map_map]
  refine List.map_congr_left fun (group, number) hnumbered => ?_
  have serves : group.pool.toProvider.canServe request = true := (List.mem_filter.1 hnumbered).2
  show Member.racer ⟨_, Provider.course earlier request group.pool.toProvider [number]
    ((Moment.opening 0).step number)⟩ = _
  rw [Pool.toProvider, Provider.course_pool serves]
  rfl

theorem racers_dispatchIn : (group.dispatchIn earlier request number).racers =
    racersOf (group.entrants earlier request [number]) :=
  group.map_racer_team [number] rfl

theorem racers_dispatch : (group.pool.dispatch earlier request .firstSuccess).racers =
    racersOf (group.entrants earlier request []) :=
  group.map_racer_team [] rfl

/-- A group whose deadline does not pass ends with what the race of its nodes comes to. -/
theorem isRaceOf_lead (serves : group.pool.toProvider.canServe request = true)
    (punctual : (group.dispatchIn earlier request number).isLate = false) :
    (group.lead earlier request number).IsRaceOf request.operation
      (group.pool.members.length = 1) (racersOf (group.entrants earlier request [number])) := by
  have made : group.pool.Makes request (group.dispatchIn earlier request number) :=
    Pool.makes_dispatchAt serves earlier [number] _
  obtain ⟨finish, hfinish, hrace⟩ := made.decides rfl
    (group.pool.isForward_dispatchAt earlier request [number] _) punctual
  rw [racers_dispatchIn] at hrace
  refine ⟨finish.ms, _, ?_, hrace⟩
  rw [lead, Member.racer, Dispatch.course, hfinish]
  rfl

/-- A group whose deadline passes gives no value. -/
theorem value?_lead_of_isLate (late : (group.dispatchIn earlier request number).isLate = true) :
    (group.lead earlier request number).value? = none := by
  by_contra hsome
  obtain ⟨⟨ms, value⟩, hvalue⟩ := Option.ne_none_iff_exists'.1 hsome
  obtain ⟨moment, hfinish, -⟩ := Member.value?_racer.1 hvalue
  obtain ⟨_, -, heq⟩ := Option.map_eq_some_iff.1 hfinish
  obtain ⟨-, hending⟩ := Prod.mk.inj heq
  have hfirst := Dispatch.exists_first_of_answer (d := group.dispatchIn earlier request number) rfl
    (group.pool.isForward_dispatchAt earlier request [number] _) (Ending.result.inj hending)
  rw [late] at hfirst
  cases hfirst.1

theorem mem_team_ofGroups (settings : Settings) (earlier : Log)
    (serves : group.pool.toProvider.canServe request = true)
    (hnumber : (group, number) ∈ groups.zipIdx) :
    ⟨group.pool.toProvider.address, (group.dispatchIn earlier request number).course⟩ ∈
      ((Pool.ofGroups settings groups).dispatch earlier request .firstSuccess).team := by
  show _ ∈ Provider.team earlier request (groups.map fun group => group.pool.toProvider) [] 0
    (.opening 0)
  rw [Provider.team_eq, List.zipIdx_map]
  refine List.mem_map.2 ⟨(group.pool.toProvider, number), List.mem_filter.2 ⟨?_, serves⟩, ?_⟩
  · exact List.mem_map.2 ⟨(group, number), hnumber, rfl⟩
  · dsimp only
    rw [Pool.toProvider, Provider.course_pool serves]
    rfl

/-- If a call of a pool of groups meets no value, no deadline of a group has passed. -/
theorem isLate_of_no_value (inTime : Pool.IsInTime settings groups earlier request)
    (serves : group.pool.toProvider.canServe request = true)
    (hnumber : (group, number) ∈ groups.zipIdx)
    (hnone : ((Pool.ofGroups settings groups).dispatch earlier request
      .firstSuccess).arrivals.findSome? Arrival.value? = none) :
    (group.dispatchIn earlier request number).isLate = false := by
  by_contra hlate
  rw [Bool.not_eq_false] at hlate
  let d := (Pool.ofGroups settings groups).dispatch earlier request .firstSuccess
  -- the group has come to an end like all members of the call, and not after the call
  obtain ⟨member, hmember⟩ := List.get_of_mem (mem_team_ofGroups settings earlier serves hnumber)
  obtain ⟨ending, hdeed⟩ := Dispatch.exists_deed_of_no_value (d := d) rfl inTime.outer hnone member
  obtain ⟨moment, hfinish, hin⟩ := Dispatch.deeds_eq_some.1 hdeed
  have hend : (group.dispatchIn earlier request number).finish? = some moment := by
    rw [hmember] at hfinish
    obtain ⟨_, hend, heq⟩ := Option.map_eq_some_iff.1 hfinish
    cases heq
    exact hend
  obtain ⟨finish, hover, hbefore⟩ := inTime.inner group number hnumber hlate moment hend
  have hall := d.toOperation.received_eq_of_none rfl (Deeds.nodup_of_perm d.arrivals_perm) hnone
  have hafter := Dispatch.not_isBefore_finish? (d := d) rfl
    (Pool.isNoted_dispatch _ earlier request .firstSuccess) inTime.outer hall hover
    (moment, ⟨member, ending⟩) (Dispatch.mem_timedArrivals.2 ⟨hfinish, hin⟩)
  rw [hbefore] at hafter
  cases hafter

end Group

/-- The nodes of the groups that are trusted with the request are all nodes that race. -/
theorem flatMap_racersOf (groups : List Group) (earlier : Log) (request : Request) :
    ((Group.trusted groups request).flatMap fun numbered =>
        racersOf (numbered.1.entrants earlier request [numbered.2])) =
      racersOf (groups.zipIdx.flatMap fun numbered =>
        numbered.1.entrants earlier request [numbered.2]) := by
  rw [racersOf, List.filter_flatMap, List.map_flatMap, Group.trusted]
  induction groups.zipIdx with
  | nil => rfl
  | cons numbered rest ih =>
    rw [List.filter_cons, List.flatMap_cons, ← ih]
    by_cases serves : numbered.1.pool.toProvider.canServe request = true
    · rw [if_pos serves]
      rfl
    · have hnil := numbered.1.racersOf_entrants_eq_nil (Bool.eq_false_iff.2 serves) earlier
        [numbered.2]
      rw [racersOf] at hnil
      rw [if_neg serves, hnil, List.nil_append]

/-- A call of a pool of groups whose deadlines do not pass ends with what the race of all nodes
comes to. -/
theorem Pool.IsInTime.decides {settings : Settings} {groups : List Group} {earlier : Log}
    {request : Request} (inTime : Pool.IsInTime settings groups earlier request)
    (serves : (Pool.ofGroups settings groups).toProvider.canServe request = true)
    {alone : Prop} (alone_iff : alone ↔ (Pool.ofGroups settings groups).members.length = 1 ∧
      ∀ numbered ∈ Group.trusted groups request, numbered.1.pool.members.length = 1) :
    let d := (Pool.ofGroups settings groups).dispatch earlier request .firstSuccess
    ∃ finish, d.finish? = some finish ∧
      Decides request.operation alone
        (racersOf (groups.zipIdx.flatMap fun numbered =>
          numbered.1.entrants earlier request [numbered.2]))
        finish.ms (d.toOperation.answer d.arrivals) := by
  intro d
  have made := makes_dispatch serves earlier .firstSuccess
  obtain ⟨finish, hfinish, outer⟩ := made.decides rfl
    (Pool.isForward_dispatch _ earlier request .firstSuccess) inTime.outer
  refine ⟨finish, hfinish, ?_⟩
  rw [Group.racers_ofGroups] at outer
  rw [← flatMap_racersOf]
  refine outer.flatMap alone_iff fun numbered hnumbered => ?_
  obtain ⟨hnumber, hserves⟩ := List.mem_filter.1 hnumbered
  cases hlate : (numbered.1.dispatchIn earlier request numbered.2).isLate with
  | false => exact .inl (Group.isRaceOf_lead hserves hlate)
  | true =>
    refine .inr ⟨Group.value?_lead_of_isLate hlate, ?_, fun racer hracer ms value hvalue => ?_⟩
    · cases hfirst : d.arrivals.findSome? Arrival.value? with
      | some value => exact ⟨value, Dispatch.answer_of_first rfl hfirst⟩
      | none =>
        rw [Group.isLate_of_no_value inTime hserves hnumber hfirst] at hlate
        cases hlate
    · have hdeadline := Dispatch.exists_deadline_of_isLate rfl hlate
      rw [Group.racers_dispatchIn] at hdeadline
      obtain ⟨hend, hlater⟩ := hdeadline
      obtain ⟨deadline, hsome, hle⟩ := hlater racer hracer ms value hvalue
      obtain ⟨finish', hfinish', hbefore⟩ :=
        inTime.inner numbered.1 numbered.2 hnumber hlate deadline (hend.trans hsome)
      cases hfinish.symm.trans hfinish'
      exact (Moment.ms_le_of_isBefore hbefore).trans hle

namespace Group

variable {settings settings' : Settings} {groups : List Group} {request : Request}

theorem canServe_ofGroups : (Pool.ofGroups settings groups).toProvider.canServe request =
    (join settings' groups).pool.toProvider.canServe request := by
  rw [canServe_pool, join, List.any_flatMap, Pool.toProvider, Provider.canServe_pool, Pool.ofGroups,
    List.any_map]
  exact congrArg groups.any (funext fun group => group.canServe_pool)

/-- A node is configured alone if and only if it is so in its group and the group is. -/
theorem alone_iff (settings settings' : Settings) (nonempty : ∀ group ∈ groups, group.nodes ≠ [])
    (serves : (Pool.ofGroups settings groups).toProvider.canServe request = true) :
    (join settings' groups).pool.members.length = 1 ↔
      (Pool.ofGroups settings groups).members.length = 1 ∧
        ∀ numbered ∈ trusted groups request, numbered.1.pool.members.length = 1 := by
  simp only [pool, join, Pool.ofGroups, List.length_map]
  rw [Pool.toProvider, Provider.canServe_pool, Pool.ofGroups, List.any_map] at serves
  obtain _ | ⟨group, _ | ⟨other, rest⟩⟩ := groups
  · cases serves
  · have hserves : group.pool.toProvider.canServe request = true := by simpa using serves
    simp [trusted, hserves]
  · have hgroup := List.length_pos_iff.2 (nonempty group (by simp))
    have hother := List.length_pos_iff.2 (nonempty other (by simp))
    simp only [List.flatMap_cons, List.length_append, List.length_cons]
    constructor
    · intro h
      omega
    · rintro ⟨h, -⟩
      omega

end Group

/-- **Regrouping.** Nodes are asked for the first value all at once, or in groups. If they do the
same in both calls, end in different milliseconds and no deadline passes, both calls return, and
their results are the same value, or both that there is no such thing, or both that nobody is
trusted with the request, or failures with the same leaves. -/
theorem Pool.regroup {settings settings' : Settings} {groups : List Group} {earlier earlier' : Log}
    {request : Request} (nonempty : ∀ group ∈ groups, group.nodes ≠ [])
    (same : (groups.zipIdx.flatMap fun numbered =>
        numbered.1.entrants earlier request [numbered.2]) =
      (Group.join settings' groups).entrants earlier' request [])
    (distinct : ((((Group.join settings' groups).entrants earlier' request []).filter
      (Entrant.isEnding request)).map fun entrant => entrant.2.delay).Nodup)
    (inTime : Pool.IsInTime settings groups earlier request)
    (inTime' : ((Group.join settings' groups).pool.dispatch earlier' request
      .firstSuccess).isLate = false) :
    ∃ finish result finish' result',
      ((Pool.ofGroups settings groups).call earlier request .firstSuccess).finish =
        some (finish, .result result) ∧
      ((Group.join settings' groups).pool.call earlier' request .firstSuccess).finish =
        some (finish', .result result') ∧
      Agree result result' := by
  by_cases serves : (Pool.ofGroups settings groups).toProvider.canServe request = true
  · have serves' : (Group.join settings' groups).pool.toProvider.canServe request = true :=
      Group.canServe_ofGroups.symm.trans serves
    obtain ⟨finish, hfinish, hrace⟩ :=
      inTime.decides serves (Group.alone_iff settings settings' nonempty serves)
    obtain ⟨finish', hfinish', hrace'⟩ :=
      (makes_dispatch serves' earlier' .firstSuccess).decides rfl
        (Pool.isForward_dispatch _ earlier' request .firstSuccess) inTime'
    rw [same] at hrace
    rw [Group.racers_dispatch] at hrace'
    refine ⟨finish, _, finish', _, ?_, ?_, hrace.agree (value_eq_of_distinct distinct) hrace'⟩
    · rw [call_eq serves, Dispatch.course, hfinish]
      rfl
    · rw [call_eq serves', Dispatch.course, hfinish']
      rfl
  · have untrusted := Bool.eq_false_iff.2 serves
    rw [call_of_not_canServe untrusted,
      call_of_not_canServe (Group.canServe_ofGroups.symm.trans untrusted)]
    exact ⟨_, _, _, _, rfl, rfl, .inl ⟨_, rfl, rfl⟩⟩

/-! ### Nodes that end -/

theorem Group.entrants_nil (group : Group) (request : Request) (place : List Nat) :
    group.entrants [] request place = group.nodes.map fun node => (node, node.act request 0) := by
  conv_rhs => rw [← List.zipIdx_map_fst 0 group.nodes, List.map_map]
  rfl

/-- Nodes that were not asked before do the same in groups and all at once. -/
theorem Group.flatMap_entrants_nil (settings : Settings) (groups : List Group)
    (request : Request) :
    (groups.zipIdx.flatMap fun numbered => numbered.1.entrants [] request [numbered.2]) =
      (join settings groups).entrants [] request [] := by
  simp only [entrants_nil]
  rw [join, List.map_flatMap]
  conv_rhs => rw [← List.zipIdx_map_fst 0 groups, List.flatMap_map]

/-- If all nodes that are trusted with the request end before the time that the settings allow, the
deadline does not pass. -/
theorem Group.isLate_of_ended {group : Group} {earlier : Log} {request : Request}
    (ended : ∀ racer ∈ racersOf (group.entrants earlier request []), ∃ finish ∈ racer.finish?,
      ∀ deadline ∈ group.settings.deadline? 0, finish.1 < deadline) :
    (group.pool.dispatch earlier request .firstSuccess).isLate = false := by
  refine Dispatch.isLate_of_ended fun racer hracer => ?_
  rw [racers_dispatch] at hracer
  exact ended racer hracer

/-- If all nodes that are trusted with the request end by a limit that is within all settings, no
deadline passes. -/
theorem Pool.isInTime_of_ended {settings : Settings} {groups : List Group} {earlier : Log}
    {request : Request} (limit : Nat)
    (ended : ∀ numbered ∈ groups.zipIdx,
      ∀ racer ∈ racersOf (numbered.1.entrants earlier request [numbered.2]),
        ∃ finish ∈ racer.finish?, finish.1 ≤ limit)
    (within : ∀ allowed ∈ settings :: groups.map Group.settings,
      ∀ deadline ∈ allowed.deadline? 0, limit < deadline) :
    Pool.IsInTime settings groups earlier request := by
  have punctual : ∀ numbered ∈ groups.zipIdx,
      (numbered.1.dispatchIn earlier request numbered.2).isLate = false := by
    intro numbered hnumbered
    refine Dispatch.isLate_of_ended fun racer hracer => ?_
    rw [Group.racers_dispatchIn] at hracer
    obtain ⟨finish, hfinish, hle⟩ := ended numbered hnumbered racer hracer
    refine ⟨finish, hfinish, fun deadline hdeadline => hle.trans_lt (within _ ?_ _ hdeadline)⟩
    exact List.mem_cons_of_mem _ (List.mem_map_of_mem (List.fst_mem_of_mem_zipIdx hnumbered))
  refine ⟨Dispatch.isLate_of_ended fun racer hracer => ?_, fun group number hnumber hlate => ?_⟩
  · rw [Group.racers_ofGroups] at hracer
    obtain ⟨numbered, hnumbered, rfl⟩ := List.mem_map.1 hracer
    have hnumbered := (List.mem_filter.1 hnumbered).1
    let d := numbered.1.dispatchIn earlier request numbered.2
    obtain ⟨finish, hfinish⟩ : ∃ finish, d.finish? = some finish :=
      ⟨_, Dispatch.finish?_of_punctual (punctual numbered hnumbered)⟩
    have hle : finish.ms ≤ limit := by
      refine Dispatch.ms_le_of_ended (d := d) (Pool.isForward_dispatchAt _ earlier request _ _)
        (punctual numbered hnumbered) (Nat.zero_le limit) (fun racer hracer own hown => ?_) finish
        hfinish
      rw [Group.racers_dispatchIn] at hracer
      obtain ⟨finish', hfinish', hle⟩ := ended numbered hnumbered racer hracer
      cases hown.symm.trans hfinish'
      exact hle
    refine ⟨(finish.ms, .result (d.toOperation.answer d.arrivals)), ?_, fun deadline hdeadline =>
      hle.trans_lt (within settings List.mem_cons_self deadline hdeadline)⟩
    rw [Group.lead, Member.racer, Dispatch.course, hfinish]
    rfl
  · rw [punctual (group, number) hnumber] at hlate
    cases hlate

/-- Two groups of nodes none of which gives an answer: the first one of a node that cannot be
reached and one that is not trusted with anything, the second one of a node that dies and one that
is busy. -/
def Group.pairs : List Group :=
  [{ settings := { timeout := ⟨100000000⟩ }
     nodes :=
      [.steady "http://a" .all 3 (some (.result (.error (.transport "http://a" "refused")))),
        .steady "http://b" .empty 4 none] },
    { settings := { timeout := ⟨100000000⟩, onDeadline := .bestEffort }
      nodes :=
        [.steady "http://c" .all 5 (some .died),
          .steady "http://d" .all 8 (some (.result (.error (.timeout "http://d" ⟨5000000⟩))))] }]

/-- No deadline passes, whether the nodes are asked in groups or all at once. -/
theorem Pool.regroup_pairs :
    Pool.IsInTime {} Group.pairs [] .nodeVersion ∧
      ((Group.join {} Group.pairs).pool.dispatch [] .nodeVersion .firstSuccess).isLate = false ∧
      ∃ finish result finish' result',
        ((Pool.ofGroups {} Group.pairs).call [] .nodeVersion .firstSuccess).finish =
          some (finish, .result result) ∧
        ((Group.join {} Group.pairs).pool.call [] .nodeVersion .firstSuccess).finish =
          some (finish', .result result') ∧
        Agree result result' := by
  have nonempty : ∀ group ∈ Group.pairs, group.nodes ≠ [] := by
    simp [Group.pairs]
  have distinct : ((((Group.join {} Group.pairs).entrants [] .nodeVersion []).filter
      (Entrant.isEnding .nodeVersion)).map fun entrant => entrant.2.delay).Nodup := by
    decide
  have inTime : Pool.IsInTime {} Group.pairs [] .nodeVersion := by
    refine Pool.isInTime_of_ended 8 ?_ ?_
    · decide
    · decide
  have inTime' : ((Group.join {} Group.pairs).pool.dispatch [] .nodeVersion
      .firstSuccess).isLate = false := by
    refine Group.isLate_of_ended ?_
    decide
  exact ⟨inTime, inTime', Pool.regroup nonempty
    (Group.flatMap_entrants_nil {} Group.pairs .nodeVersion) distinct inTime inTime'⟩

end Beacon
