import Beacon.Proofs.Node.Sidecars
import Beacon.Proofs.Pool.Log
import Beacon.Proofs.Pool.Team

/-!
# Trust

A provider is trusted with what any of its nodes is trusted with, and a pool asks those of its
members that are trusted with the request. By induction on the tree of pools:

* `Provider.asks_course`: no node is asked twice in one call, and none that is not trusted;
* `Provider.IsNetworked.not_isPartOf`: of a provider that is trusted, no failure says that the
  request is unsupported, also none of those listed inside another one.

`Provider.trust_is_kept` puts both together for nodes on networks, where asking a node is at most
one HTTP request (`Node.execute_congr_of_sent`). Such nodes come to an end whenever they are asked,
and so does whatever is made of them (`Provider.IsNetworked.exists_finish`).
-/

namespace Beacon

/-- A failure is another one, or is listed inside it at some depth. -/
inductive Failure.IsPartOf (part : Failure) : Failure → Prop where
  | self : IsPartOf part part
  /-- A part of the failure of a member, where all members failed. -/
  | aggregate {operation : String} {failures : List MemberFailure} {endpoint : String}
    {cause : Failure} (mem : (endpoint, cause) ∈ failures) (part_of : IsPartOf part cause) :
    IsPartOf part (.aggregate operation failures)
  /-- A part of the failure of a member, where no answer could be chosen. -/
  | inconclusive {operation reason : String} {failures : List MemberFailure} {endpoint : String}
    {cause : Failure} (mem : (endpoint, cause) ∈ failures) (part_of : IsPartOf part cause) :
    IsPartOf part (.inconclusive operation reason failures)

/-- The failure of a call to one node has no other parts. -/
theorem Failure.IsPartOf.eq_of_isOfNode {part failure : Failure} (h : part.IsPartOf failure)
    (own : failure.isOfNode = true) : part = failure := by
  cases h with
  | self => rfl
  | aggregate => cases own
  | inconclusive => cases own

/-! ### Who is asked -/

namespace Provider

/-- The provider at a place below a provider, by the numbers of the members on the way. -/
def at? : Provider → List Nat → Option Provider
  | provider, [] => some provider
  | .single _, _ :: _ => none
  | .pool _ members, number :: rest => members[number]?.bind fun member => member.at? rest

/-- In a log, no node is asked twice, and the nodes that are asked are those of a provider at a
place, and trusted with the request. -/
structure Asks (provider : Provider) (request : Request) (place : List Nat) (log : Log) : Prop where
  starts_le : ∀ place', log.starts place' ≤ 1
  exists_node : ∀ place', 0 < log.starts place' → ∃ path responder, place' = place ++ path ∧
    provider.at? path = some (.single responder) ∧
    responder.capabilities.contains request.capability = true

variable {earlier : Log} {request : Request} {members : List Provider} {place : List Nat}
  {start : Moment}

theorem asks_nil (provider : Provider) : provider.Asks request place [] where
  starts_le _ := Nat.zero_le 1
  exists_node _ h := absurd h (Nat.lt_irrefl 0)

/-- A single node is asked once, at its place. -/
theorem starts_singleCourse (responder : Responder) (before : Nat) (place' : List Nat) :
    (singleCourse responder request before place start).log.starts place' =
      if place = place' then 1 else 0 := by
  obtain ⟨rest, hlog, hrest⟩ : ∃ rest : Log,
      (singleCourse responder request before place start).log =
        [⟨start, place, .started⟩] ++ rest ∧ ∀ note ∈ rest, note.event ≠ .started := by
    refine ⟨_, rfl, fun note hnote => ?_⟩
    split at hnote
    · cases List.mem_singleton.1 hnote
      exact nofun
    · cases hnote
  rw [hlog, Log.starts_append, Log.starts_eq_zero hrest]
  by_cases heq : place = place' <;> simp [Log.starts, heq]

theorem asks_singleCourse {responder : Responder} (before : Nat)
    (trusted : responder.capabilities.contains request.capability = true) :
    (single responder).Asks request place
      (singleCourse responder request before place start).log := by
  refine ⟨fun place' => ?_, fun place' h => ?_⟩
  · rw [starts_singleCourse]
    split <;> omega
  · rw [starts_singleCourse] at h
    split at h
    · next heq => exact ⟨[], responder, by rw [heq, List.append_nil], rfl, trusted⟩
    · omega

/-- The members of a team ask nobody twice, as each of them stays below its own place. -/
theorem asks_team
    (each : ∀ member ∈ members, ∀ place start,
      member.Asks request place (course earlier request member place start).log)
    (index : Nat) (place' : List Nat) :
    let log : Log := (team earlier request members place index start).flatMap (·.course.log)
    log.starts place' ≤ 1 ∧ (0 < log.starts place' →
      ∃ number member path responder, members[number]? = some member ∧
        place' = place ++ (index + number) :: path ∧ member.at? path = some (.single responder) ∧
        responder.capabilities.contains request.capability = true) := by
  induction members generalizing index with
  | nil => exact ⟨Nat.zero_le 1, fun h => absurd h (Nat.lt_irrefl 0)⟩
  | cons member rest ih =>
    obtain ⟨hle, hnode⟩ := ih (fun m hm => each m (List.mem_cons_of_mem _ hm)) (index + 1)
    -- whoever is asked below the other members is at a later number
    have hrest (h : 0 < Log.starts ((team earlier request rest place (index + 1) start).flatMap
        (·.course.log)) place') :
        ∃ number member' path responder, (member :: rest)[number]? = some member' ∧
          0 < number ∧ place' = place ++ (index + number) :: path ∧
          member'.at? path = some (.single responder) ∧
          responder.capabilities.contains request.capability = true := by
      obtain ⟨number, member', path, responder, hnumber, rfl, hat, trusted⟩ := hnode h
      refine ⟨number + 1, member', path, responder, hnumber, Nat.succ_pos _, ?_, hat, trusted⟩
      rw [Nat.add_right_comm, Nat.add_assoc]
    intro log
    by_cases serves : member.capabilities.contains request.capability = true
    · have hlog : log = (course earlier request member (place ++ [index]) (start.step index)).log ++
          (team earlier request rest place (index + 1) start).flatMap (·.course.log) := by
        simp only [log, team, if_pos serves, List.flatMap_cons]
      rw [hlog, Log.starts_append]
      obtain ⟨hle', hnode'⟩ := each member List.mem_cons_self (place ++ [index]) (start.step index)
      by_cases hzero : Log.starts
          ((team earlier request rest place (index + 1) start).flatMap (·.course.log)) place' = 0
      · rw [hzero, Nat.add_zero]
        refine ⟨hle' place', fun h => ?_⟩
        obtain ⟨path, responder, rfl, hat, trusted⟩ := hnode' place' h
        exact ⟨0, member, path, responder, rfl, by simp, hat, trusted⟩
      · obtain ⟨number, member', path, responder, hnumber, hpos, heq, hat, trusted⟩ :=
          hrest (Nat.pos_of_ne_zero hzero)
        have hown : (course earlier request member (place ++ [index])
            (start.step index)).log.starts place' = 0 := by
          by_contra hne
          obtain ⟨path', -, heq', -⟩ := hnode' place' (Nat.pos_of_ne_zero hne)
          rw [heq, List.append_assoc, List.append_cancel_left_eq, List.singleton_append,
            List.cons.injEq] at heq'
          omega
        rw [hown, Nat.zero_add]
        exact ⟨hle, fun _ => ⟨number, member', path, responder, hnumber, heq, hat, trusted⟩⟩
    · have hlog : log =
          (team earlier request rest place (index + 1) start).flatMap (·.course.log) := by
        simp only [log, team, if_neg serves]
      rw [hlog]
      refine ⟨hle, fun h => ?_⟩
      obtain ⟨number, member', path, responder, hnumber, -, hrest⟩ := hrest h
      exact ⟨number, member', path, responder, hnumber, hrest⟩

/-- In the call of a pool, nobody is asked but by its members. -/
theorem asks_dispatch {settings : Settings} {d : Dispatch request.Answer}
    (each : ∀ member ∈ members, ∀ place start,
      member.Asks request place (course earlier request member place start).log)
    (team_eq : d.team = team earlier request members place 0 start) :
    (pool settings members).Asks request place d.course.log := by
  have hle (place' : List Nat) : d.course.log.starts place' ≤
      Log.starts ((team earlier request members place 0 start).flatMap (·.course.log)) place' := by
    rw [← team_eq]
    exact d.starts_course_le place'
  refine ⟨fun place' => (hle place').trans (asks_team each 0 place').1, fun place' h => ?_⟩
  obtain ⟨number, member, path, responder, hnumber, rfl, hat, trusted⟩ :=
    (asks_team each 0 place').2 (h.trans_le (hle place'))
  refine ⟨number :: path, responder, by rw [Nat.zero_add], ?_, trusted⟩
  rw [at?, hnumber]
  exact hat

/-- **Who is asked.** In one call no node is asked twice, and none that is not trusted with the
request. -/
theorem asks_course (provider : Provider) (place : List Nat) (start : Moment) :
    provider.Asks request place (course earlier request provider place start).log := by
  induction provider using Provider.induction generalizing place start with
  | single responder =>
    cases trusted : (single responder).canServe request with
    | true =>
      rw [course_single trusted]
      exact asks_singleCourse _ trusted
    | false =>
      rw [course_of_not_canServe trusted]
      exact asks_nil _
  | pool settings members ih =>
    cases trusted : (pool settings members).canServe request with
    | true =>
      rw [course_pool trusted]
      exact asks_dispatch ih rfl
    | false =>
      rw [course_of_not_canServe trusted]
      exact asks_nil _

end Provider

/-! ### What is unsupported -/

namespace Operation

variable {n : Nat} {α : Type} [BEq α] (op : Operation n α) {choice : Choice}
  {arrivals : List (Arrival n α)} {failure : Failure} {capability : Capability}

/-- If the error of a call says somewhere that a request is unsupported, a failure on its ballot
does. -/
theorem exists_failure_of_isPartOf (policy : op.policy = choice.policy)
    (h : op.answer arrivals = .error failure)
    (part : (Failure.unsupported capability).IsPartOf failure) :
    ∃ member ∈ (op.ballot arrivals).filterMap Report.failure?,
      (Failure.unsupported capability).IsPartOf member.2 := by
  obtain ⟨-, hconclude⟩ | ⟨-, -, reason, rfl⟩ := op.answer_error_cases policy h
  · rcases op.conclude_failed ((op.ballot arrivals).filterMap Report.failure?) with
      ⟨endpoint, cause, hone, hbare⟩ | hall
    · rw [hbare] at hconclude
      cases hconclude
      exact ⟨_, hone ▸ List.mem_singleton_self _, part⟩
    · rw [hall] at hconclude
      cases hconclude
      cases part with
      | aggregate mem part_of => exact ⟨_, mem, part_of⟩
  · cases part with
    | inconclusive mem part_of => exact ⟨_, mem, part_of⟩

omit [BEq α] in
/-- A failure on the ballot that says so is one that a member reports. -/
theorem exists_arrival_of_isPartOf {member : MemberFailure}
    (hmem : member ∈ (op.ballot arrivals).filterMap Report.failure?)
    (part : (Failure.unsupported capability).IsPartOf member.2) :
    ∃ a ∈ arrivals, a.ending = .result (.error member.2) := by
  obtain ⟨report, hreport, hfailure⟩ := List.mem_filterMap.1 hmem
  rw [ballot_eq] at hreport
  rcases List.mem_append.1 hreport with hreport | hreport
  · obtain ⟨a, ha, hreport⟩ := List.mem_filterMap.1 hreport
    refine ⟨a, (op.received_prefix arrivals).subset ha, ?_⟩
    obtain ⟨number, (cause | (_ | v)) | _⟩ := a <;> cases hreport <;> cases hfailure
    rfl
  · -- what is made up for a silent member is about the deadline or its task
    split at hreport
    · cases hreport
    · obtain ⟨silent, -, rfl⟩ := List.mem_map.1 hreport
      cases hfailure
      dsimp only [absence] at part
      split at part <;> cases part

end Operation

/-- In the call of a pool none of whose trusted members ever says so, no failure says that the
request is unsupported. -/
theorem Pool.Makes.not_isPartOf {pool : Pool} {request : Request} {d : Dispatch request.Answer}
    {choice : Choice} (made : pool.Makes request d) (policy : d.policy = choice.policy)
    (own : ∀ member ∈ pool.members, member.canServe request = true →
      ∀ earlier place start moment failure capability,
        (Provider.course earlier request member place start).finish =
          some (moment, .result (.error failure)) →
        ¬ (Failure.unsupported capability).IsPartOf failure)
    {moment : Moment} {failure : Failure} {capability : Capability}
    (h : d.course.finish = some (moment, .result (.error failure))) :
    ¬ (Failure.unsupported capability).IsPartOf failure := by
  intro part
  obtain ⟨_, -, heq⟩ := Option.map_eq_some_iff.1 h
  have hanswer : d.toOperation.answer d.arrivals = .error failure :=
    Ending.result.inj (Prod.mk.inj heq).2
  obtain ⟨member, hmem, part⟩ := d.toOperation.exists_failure_of_isPartOf policy hanswer part
  obtain ⟨a, ha, hending⟩ := d.toOperation.exists_arrival_of_isPartOf hmem part
  -- who reports it is a member of the team, and so a provider that is trusted
  obtain ⟨⟨moment', ending⟩, hfinish, rfl⟩ :=
    Option.map_eq_some_iff.1 ((Deeds.mem_of_perm d.arrivals_perm).1 ha)
  obtain ⟨provider, hprovider, serves, earlier, place, start, hget⟩ := made.exists_get_team a.member
  rw [Option.filter_eq_some_iff, hget, hending] at hfinish
  exact own provider hprovider serves _ _ _ _ _ _ hfinish.1 part

/-- A call of a pool gives a result if all members come to an end whenever they are asked. -/
theorem Pool.Makes.returns {pool : Pool} {request : Request} {d : Dispatch request.Answer}
    (made : pool.Makes request d)
    (ends : ∀ member ∈ pool.members, ∀ earlier place start,
      (Provider.course earlier request member place start).finish.isSome = true) :
    d.Returns (d.toOperation.answer d.arrivals) := by
  refine Dispatch.returns_answer fun _ member => ?_
  obtain ⟨provider, hprovider, -, earlier, place, start, hget⟩ := made.exists_get_team member
  rw [hget]
  exact ends provider hprovider earlier place start

/-- A provider whose nodes are nodes on networks. -/
inductive Provider.IsNetworked : Provider → Prop where
  | single (network : Network) (endpoint : Endpoint) :
    IsNetworked (.single (Node.responder network endpoint))
  | pool (settings : Settings) (members : List Provider)
    (each : ∀ member ∈ members, member.IsNetworked) : IsNetworked (.pool settings members)

namespace Provider.IsNetworked

variable {provider : Provider} {earlier : Log} {request : Request} {place : List Nat}
  {start moment : Moment} {failure : Failure} {capability : Capability}

theorem of_mem_members {pool : Pool} (networked : pool.toProvider.IsNetworked) :
    ∀ member ∈ pool.members, member.IsNetworked := by
  cases networked with
  | pool settings members each => exact each

/-- Below such a provider there are only nodes on networks. -/
theorem exists_endpoint (networked : provider.IsNetworked) {path : List Nat} {responder : Responder}
    (h : provider.at? path = some (.single responder)) :
    ∃ network endpoint, responder = Node.responder network endpoint := by
  induction networked generalizing path with
  | single network endpoint =>
    cases path with
    | nil =>
      cases h
      exact ⟨network, endpoint, rfl⟩
    | cons => cases h
  | pool settings members each ih =>
    cases path with
    | nil => cases h
    | cons number rest =>
      obtain ⟨member, hnumber, h⟩ := Option.bind_eq_some_iff.1 h
      exact ih member (List.mem_of_getElem? hnumber) h

/-- Whenever such a provider is asked, it comes to an end with a result. -/
theorem exists_finish (networked : provider.IsNetworked) (earlier : Log) (request : Request)
    (place : List Nat) (start : Moment) :
    ∃ moment result,
      (course earlier request provider place start).finish = some (moment, .result result) := by
  induction networked generalizing earlier place start with
  | single network endpoint =>
    obtain ⟨moment, hfinish⟩ :=
      Node.exists_finish_course network endpoint request earlier place start
    exact ⟨moment, _, hfinish⟩
  | pool settings members each ih =>
    let inner : Pool := ⟨settings, members⟩
    cases serves : inner.toProvider.canServe request with
    | false =>
      have hrefuses : course earlier request (.pool settings members) place start =
          refusal request start := course_of_not_canServe serves
      rw [hrefuses]
      exact ⟨start, _, rfl⟩
    | true =>
      rw [course_pool serves]
      obtain ⟨moment, hfinish⟩ := (Pool.makes_dispatchAt serves earlier place start).returns
        fun member hmem earlier place start => by
          obtain ⟨_, _, hfinish⟩ := ih member hmem earlier place start
          rw [hfinish]
          rfl
      exact ⟨moment, _, hfinish⟩

/-- **What is unsupported.** If such a provider is trusted with a request, no failure says that the
request is unsupported. -/
theorem not_isPartOf (networked : provider.IsNetworked) (serves : provider.canServe request = true)
    (h : (course earlier request provider place start).finish =
      some (moment, .result (.error failure))) :
    ¬ (Failure.unsupported capability).IsPartOf failure := by
  induction networked generalizing earlier place start moment failure capability with
  | single network endpoint =>
    intro part
    obtain ⟨_, hfinish⟩ :=
      Node.exists_finish_course network endpoint request earlier place start
    rw [hfinish] at h
    have herror : (Node.execute (Node.exchange network endpoint (earlier.starts place)) endpoint
        request).2 = .error failure := Ending.result.inj (Prod.mk.inj (Option.some.inj h)).2
    obtain ⟨-, own⟩ | ⟨untrusted, -⟩ := Node.execute_error_cases herror
    · rw [← part.eq_of_isOfNode own] at own
      cases own
    · rw [canServe, capabilities] at serves
      exact Bool.noConfusion (serves.symm.trans untrusted)
  | pool settings members each ih =>
    rw [course_pool serves] at h
    let inner : Pool := ⟨settings, members⟩
    have serves : inner.toProvider.canServe request = true := serves
    have policy : (inner.dispatchAt earlier request place start).policy =
        Choice.firstSuccess.policy := rfl
    exact (Pool.makes_dispatchAt serves earlier place start).not_isPartOf policy
      (fun member hmem serves _ _ _ _ _ _ h => ih member hmem serves h) h

end Provider.IsNetworked

/-! ### Trust is kept -/

namespace Node

variable {endpoint : Endpoint} {request : Request}

/-- What a node is sent when it is asked: nothing if it is not trusted with the request. -/
def sent? (endpoint : Endpoint) (request : Request) : Option Http.Request :=
  if endpoint.capabilities.contains request.capability then (Call.ofRequest request).send? endpoint
  else none

/-- Nothing but the exchange of what it is sent matters to what comes of asking a node. -/
theorem execute_congr_of_sent {network network' : Http.Request → Http.Exchange}
    (h : ∀ sent, sent? endpoint request = some sent → network sent = network' sent) :
    execute network endpoint request = execute network' endpoint request := by
  unfold execute
  split
  · next trusted =>
    rw [sent?, if_pos trusted] at h
    have hrun : (Call.ofRequest request).run network endpoint =
        (Call.ofRequest request).run network' endpoint := by
      unfold Call.run
      cases hsend : (Call.ofRequest request).send? endpoint with
      | none => rfl
      | some sent => simp only [h sent hsend]
    rw [hrun]
  · rfl

end Node

namespace Provider

variable {provider : Provider} {request : Request} {place : List Nat} {start : Moment}
  {course : Course request.Answer}

/-- What comes of asking a provider at a place respects what its nodes are trusted with. -/
structure KeepsTrust (provider : Provider) (request : Request) (place : List Nat)
    (course : Course request.Answer) : Prop where
  /-- It is that the request is unsupported if and only if the provider is not trusted with it. -/
  unsupported_iff : (∃ moment capability,
      course.finish = some (moment, .result (.error (.unsupported capability)))) ↔
    provider.canServe request = false
  /-- Then the capability is that of the request, and nobody is asked. -/
  refuses : provider.canServe request = false →
    (∃ moment, course.finish =
      some (moment, .result (.error (.unsupported request.capability)))) ∧
    ∀ place', course.log.starts place' = 0
  /-- Otherwise no failure says so, also none of those listed inside another one. -/
  supported : provider.canServe request = true → ∀ moment failure capability,
    course.finish = some (moment, .result (.error failure)) →
      ¬ (Failure.unsupported capability).IsPartOf failure
  /-- No node is asked twice. -/
  starts_le : ∀ place', course.log.starts place' ≤ 1
  /-- Who is asked is a node below the provider that is trusted with the request. -/
  exists_node : ∀ place', 0 < course.log.starts place' → ∃ path network endpoint,
    place' = place ++ path ∧ provider.at? path = some (.single (Node.responder network endpoint)) ∧
    endpoint.capabilities.contains request.capability = true

theorem IsNetworked.keepsTrust (networked : provider.IsNetworked)
    (refuses : provider.canServe request = false → course = refusal request start)
    (supported : provider.canServe request = true → ∀ moment failure capability,
      course.finish = some (moment, .result (.error failure)) →
        ¬ (Failure.unsupported capability).IsPartOf failure)
    (asks : provider.Asks request place course.log) :
    provider.KeepsTrust request place course where
  unsupported_iff := by
    constructor
    · rintro ⟨moment, capability, hfinish⟩
      by_contra serves
      exact supported (Bool.not_eq_false _ ▸ serves) moment _ capability hfinish .self
    · intro untrusted
      rw [refuses untrusted]
      exact ⟨start, request.capability, rfl⟩
  refuses untrusted := by
    rw [refuses untrusted]
    exact ⟨⟨start, rfl⟩, fun _ => rfl⟩
  supported := supported
  starts_le := asks.starts_le
  exists_node place' h := by
    obtain ⟨path, responder, rfl, hat, trusted⟩ := asks.exists_node place' h
    obtain ⟨network, endpoint, rfl⟩ := networked.exists_endpoint hat
    exact ⟨path, network, endpoint, rfl, hat, trusted⟩

/-- **Trust.** When a node on a network or a pool of such providers is asked, as a member or by
itself, it is that the request is unsupported if and only if the provider is not trusted with it,
and then nobody is asked. Otherwise no failure says so anywhere, and no node is asked twice or
without being trusted with the request. To ask a node is at most one HTTP request. -/
theorem trust_is_kept (networked : provider.IsNetworked) (earlier : Log) (request : Request) :
    (∀ place start, provider.KeepsTrust request place
      (Provider.course earlier request provider place start)) ∧
    (∀ pool : Pool, pool.toProvider = provider → ∀ choice : Choice,
      provider.KeepsTrust request [] (pool.call earlier request choice.policy)) ∧
    ∀ endpoint network network',
      (∀ sent, Node.sent? endpoint request = some sent → network sent = network' sent) →
        Node.execute network endpoint request = Node.execute network' endpoint request := by
  refine ⟨fun place start => ?_, ?_, fun _ _ _ => Node.execute_congr_of_sent⟩
  · exact networked.keepsTrust course_of_not_canServe
      (fun serves _ _ _ => networked.not_isPartOf serves) (asks_course provider place start)
  · rintro pool rfl choice
    have each := networked.of_mem_members
    refine networked.keepsTrust (fun untrusted => Pool.call_of_not_canServe untrusted _ _)
      (fun serves _ _ _ h => ?_) ?_
    · rw [Pool.call_eq serves] at h
      exact (Pool.makes_dispatch serves earlier choice.policy).not_isPartOf rfl
        (fun member hmem serves _ _ _ _ _ _ => (each member hmem).not_isPartOf serves) h
    · cases serves : pool.toProvider.canServe request with
      | true =>
        rw [Pool.call_eq serves]
        exact asks_dispatch (fun member _ => asks_course member) rfl
      | false =>
        rw [Pool.call_of_not_canServe serves]
        exact asks_nil _

end Provider

/-- A pool of a node that is trusted with everything and of another pool, whose only node is trusted
with telling its software. -/
def Pool.graded : Pool where
  settings := { timeout := ⟨100000000⟩ }
  members :=
    [.single (Node.responder (fun _ _ => ⟨none, .overdue⟩) (.loopback 5052)),
      .pool {} [.single (Node.responder (fun _ _ => ⟨none, .overdue⟩)
        { Endpoint.loopback 5053 with capabilities := .ofList [.nodeVersion] })]]

/-- The node inside the other pool is not asked for the start of the chain. -/
theorem Provider.trust_is_kept_graded :
    Pool.graded.toProvider.IsNetworked ∧
      (Pool.graded.call [] .genesis Choice.majority.policy).log.starts [0] ≤ 1 ∧
      (Pool.graded.call [] .genesis Choice.majority.policy).log.starts [1, 0] = 0 := by
  have networked : Pool.graded.toProvider.IsNetworked := by
    refine .pool _ _ (List.forall_mem_cons.2 ⟨.single _ _, List.forall_mem_singleton.2 ?_⟩)
    exact .pool _ _ (List.forall_mem_singleton.2 (.single _ _))
  have keeps := (trust_is_kept networked [] .genesis).2.1 Pool.graded rfl .majority
  refine ⟨networked, keeps.starts_le [0], ?_⟩
  by_contra hne
  obtain ⟨path, network, endpoint, rfl, hat, trusted⟩ :=
    keeps.exists_node [1, 0] (Nat.pos_of_ne_zero hne)
  have hcapabilities : CapabilitySet.ofList [.nodeVersion] = endpoint.capabilities :=
    Option.some.inj (congrArg (Option.map Provider.capabilities) hat)
  rw [← hcapabilities] at trusted
  cases trusted

end Beacon
