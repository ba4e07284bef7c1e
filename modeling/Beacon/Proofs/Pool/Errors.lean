import Beacon.Pool.OfNodes
import Beacon.Proofs.Pool.Accounting

/-!
# Errors of pools

A pool calls those of its members that are trusted with a request. `Pool.Makes` says what such a
call has to do with the pool, whether the pool is asked by itself or is a member of another one.
`Dispatch.error_accounting` says what the error of such a call tells of its members.

An error of a member is handed on as it is, whatever it says. For the error of a pool to say that
its members are undecided only when they are, no node may say that of itself: `Provider.Resolute`.
Nodes on a network are such (`Node.resolute_responder`), and so are pools of such providers in turn
when they are asked as members (`Provider.Resolute.course_not_inconclusive`).
-/

namespace Beacon

/-- A call that a pool makes for a request, by itself or inside another pool. -/
structure Pool.Makes (pool : Pool) (request : Request) (d : Dispatch request.Answer) : Prop where
  /-- The pool is trusted with the request. -/
  serves : pool.toProvider.canServe request = true
  /-- The failure of a member is given as it is if no other member is configured. -/
  isAlone_eq : d.isAlone = decide (pool.members.length = 1)
  /-- The members are those that are trusted with the request. -/
  team_eq : ∃ earlier place start,
    d.team = Provider.team earlier request pool.members place 0 start

namespace Provider

/-- The team of a call: the members that are trusted with the request, by their numbers. -/
theorem team_eq {earlier : Log} {request : Request} {members : List Provider} {place : List Nat}
    {start : Moment} (index : Nat) :
    team earlier request members place index start =
      ((members.zipIdx index).filter fun numbered => numbered.1.canServe request).map
        fun (member, number) =>
          ⟨member.address, course earlier request member (place ++ [number])
            (start.step number)⟩ := by
  induction members generalizing index with
  | nil => rfl
  | cons member rest ih =>
    rw [team, List.zipIdx_cons, List.filter_cons, canServe, ih]
    split <;> rfl

theorem map_address_team (earlier : Log) (request : Request) (members : List Provider)
    (place : List Nat) (index : Nat) (start : Moment) :
    (team earlier request members place index start).map Member.address =
      (members.filter (canServe · request)).map address := by
  induction members generalizing index with
  | nil => simp [team]
  | cons member rest ih =>
    rw [team, List.filter_cons, canServe]
    split
    · simp [ih]
    · exact ih _

theorem contains_allCapabilities (members : List Provider) (c : Capability) :
    (allCapabilities members).contains c = members.any fun m => m.capabilities.contains c := by
  induction members with
  | nil => simp [allCapabilities]
  | cons member rest ih => simp [allCapabilities, ih]

/-- A pool is trusted with what any of its members is trusted with. -/
theorem canServe_pool (settings : Settings) (members : List Provider) (request : Request) :
    (pool settings members).canServe request = members.any (canServe · request) :=
  contains_allCapabilities members request.capability

end Provider

namespace Pool

variable {pool : Pool} {request : Request} {d : Dispatch request.Answer}

/-- A call by itself. -/
theorem makes_dispatch (serves : pool.toProvider.canServe request = true) (earlier : Log)
    (policy : Policy request.Answer) : pool.Makes request (pool.dispatch earlier request policy) :=
  ⟨serves, rfl, earlier, [], .opening 0, rfl⟩

/-- A call inside another one: it takes the first value. -/
theorem exists_makes_course (serves : pool.toProvider.canServe request = true) (earlier : Log)
    (place : List Nat) (start : Moment) :
    ∃ d, pool.Makes request d ∧ d.policy = .firstSuccess ∧
      Provider.course earlier request pool.toProvider place start = d.course := by
  have hcontains : (Provider.allCapabilities pool.members).contains request.capability = true := by
    simpa [Provider.canServe, toProvider, Provider.capabilities] using serves
  rw [toProvider, Provider.course, if_pos hcontains]
  exact ⟨_, ⟨serves, rfl, earlier, place, start, rfl⟩, rfl, rfl⟩

namespace Makes

theorem map_address (made : pool.Makes request d) :
    (List.finRange d.size).map d.toOperation.address =
      (pool.members.filter (Provider.canServe · request)).map Provider.address := by
  obtain ⟨earlier, place, start, hteam⟩ := made.team_eq
  rw [← Provider.map_address_team earlier request pool.members place 0 start, ← hteam]
  conv_rhs => rw [← List.map_get_finRange d.team, List.map_map]
  rfl

theorem size_eq (made : pool.Makes request d) :
    d.size = (pool.members.filter (Provider.canServe · request)).length := by
  simpa using congrArg List.length made.map_address

theorem size_le (made : pool.Makes request d) : d.size ≤ pool.members.length :=
  made.size_eq ▸ List.length_filter_le ..

theorem size_pos (made : pool.Makes request d) : 0 < d.size := by
  have h := made.serves
  rw [toProvider, Provider.canServe_pool, List.any_eq_true] at h
  rw [made.size_eq, List.length_filter_pos_iff]
  exact h

/-- Who is asked is a member that is trusted with the request. -/
theorem exists_get_team (made : pool.Makes request d) (member : Fin d.size) :
    ∃ provider ∈ pool.members, provider.canServe request = true ∧ ∃ earlier place start,
      d.team.get member =
        ⟨provider.address, Provider.course earlier request provider place start⟩ := by
  obtain ⟨earlier, place, start, hteam⟩ := made.team_eq
  have hmem : d.team.get member ∈ Provider.team earlier request pool.members place 0 start :=
    hteam ▸ List.get_mem ..
  rw [Provider.team_eq, List.mem_map] at hmem
  obtain ⟨⟨provider, number⟩, hnumbered, heq⟩ := hmem
  obtain ⟨hnumbered, serves⟩ := List.mem_filter.1 hnumbered
  exact ⟨provider, List.fst_mem_of_mem_zipIdx hnumbered, serves, earlier, _, _, heq.symm⟩

end Makes

end Pool

/-! ### Undecided calls -/

/-- Whether a failure is that there was no answer that could be chosen. -/
def Failure.isInconclusive : Failure → Bool
  | .inconclusive .. => true
  | _ => false

/-- Whether a failure is that of a call to one node. -/
def Failure.isOfNode : Failure → Bool
  | .transport .. | .timeout .. | .refused .. | .decode .. => true
  | _ => false

theorem Failure.not_inconclusive_of_isOfNode {failure : Failure}
    (h : failure.isOfNode = true) : failure.isInconclusive = false := by
  cases failure <;> simp_all [isOfNode, isInconclusive]

/-- A provider none of whose nodes fails with being undecided. -/
inductive Provider.Resolute : Provider → Prop where
  | single (responder : Responder)
    (own : ∀ request before failure,
      (responder.act request before).ending = some (.result (.error failure)) →
        failure.isInconclusive = false) :
    Resolute (.single responder)
  | pool (settings : Settings) (members : List Provider)
    (each : ∀ member ∈ members, member.Resolute) :
    Resolute (.pool settings members)

namespace Node

variable {endpoint : Endpoint} {call : Call} {request : Request} {failure : Failure}

theorem Call.classify_isOfNode {response : Http.Response}
    (h : (call.classify response).2 = .error failure) : failure.isOfNode = true := by
  unfold classify at h
  split at h
  · cases h
  split at h
  · cases h
  split at h
  · cases h; rfl
  · -- what is left is to tell the encoding and the fork
    unfold resolve at h
    split at h
    · cases h; rfl
    · dsimp only at h
      split at h
      · cases h
      · split at h <;> cases h
        rfl

theorem Call.run_isOfNode {network : Http.Request → Http.Exchange}
    (h : (call.run network endpoint).2 = .error failure) : failure.isOfNode = true := by
  have hconclude {exchange : Http.Exchange}
      (h : (call.conclude endpoint exchange).2 = .error failure) : failure.isOfNode = true := by
    cases exchange with
    | answered response => exact classify_isOfNode h
    | broken reason => cases h; rfl
    | overdue => cases h; rfl
  unfold run at h
  split at h <;> exact hconclude h

theorem readAnswer_isOfNode {reply : Reply}
    (h : readAnswer request reply = .error failure) : failure.isOfNode = true := by
  unfold readAnswer at h
  split at h
  · split at h <;> cases h
    rfl
  · cases h

/-- A node on a network fails in its call, unless it is not trusted with the request. -/
theorem execute_error_cases {network : Http.Request → Http.Exchange}
    (h : (execute network endpoint request).2 = .error failure) :
    endpoint.capabilities.contains request.capability = true ∧ failure.isOfNode = true ∨
      endpoint.capabilities.contains request.capability = false ∧
        failure = .unsupported request.capability := by
  unfold execute at h
  split at h
  · next trusted =>
    refine .inl ⟨trusted, ?_⟩
    dsimp only at h
    split at h
    · exact readAnswer_isOfNode h
    · next hrun =>
      cases h
      exact Call.run_isOfNode hrun
  · next untrusted =>
    cases h
    exact .inr ⟨Bool.eq_false_iff.2 untrusted, rfl⟩

/-- A node on a network never fails with being undecided. -/
theorem execute_not_inconclusive {network : Http.Request → Http.Exchange}
    (h : (execute network endpoint request).2 = .error failure) :
    failure.isInconclusive = false := by
  obtain ⟨-, hown⟩ | ⟨-, rfl⟩ := execute_error_cases h
  · exact Failure.not_inconclusive_of_isOfNode hown
  · rfl

theorem resolute_responder (network : Network) (endpoint : Endpoint) :
    (Provider.single (responder network endpoint)).Resolute :=
  .single _ fun _ _ _ h => by
    simp only [responder, Option.some.injEq, Ending.result.injEq] at h
    exact execute_not_inconclusive h

end Node

namespace Pool.Makes

variable {pool : Pool} {request : Request} {d : Dispatch request.Answer} {choice : Choice}

/-- What the error of a call says of the members. -/
theorem tells (made : pool.Makes request d) (policy : d.policy = choice.policy)
    {arrivals : List (Arrival d.size request.Answer)} (order : arrivals.Perm d.arrivals)
    {failure : Failure} (h : d.toOperation.answer arrivals = .error failure) :
    Tells choice pool.members.length d.toOperation d.deeds failure :=
  d.toOperation.tells_of_error policy made.isAlone_eq made.size_pos made.size_le
    (order.trans d.arrivals_perm) h

/-- Where no member fails with being undecided, what a member fails with in a call is not that. -/
theorem cause_not_inconclusive (made : pool.Makes request d)
    (own : ∀ member ∈ pool.members, ∀ earlier place start moment failure,
      (Provider.course earlier request member place start).finish =
        some (moment, .result (.error failure)) → failure.isInconclusive = false)
    {member : Fin d.size} {cause : Failure}
    (h : d.deeds.cause? (d.toOperation.absence d.deeds.isPartial) member = some cause) :
    cause.isInconclusive = false := by
  unfold Deeds.cause? at h
  split at h
  · next hdeed =>
    cases h
    obtain ⟨provider, hprovider, -, earlier, place, start, hget⟩ := made.exists_get_team member
    obtain ⟨⟨moment, ending⟩, hfinish, rfl⟩ := Option.map_eq_some_iff.1 hdeed
    rw [Option.filter_eq_some_iff, hget] at hfinish
    exact own provider hprovider _ _ _ _ _ hfinish.1
  · cases h
  · cases h
    unfold Operation.absence
    split <;> rfl

end Pool.Makes

/-- Such a provider never ends with being undecided when it is asked as a member. -/
theorem Provider.Resolute.course_not_inconclusive {provider : Provider} (h : provider.Resolute)
    {earlier : Log} {request : Request} {place : List Nat} {start moment : Moment}
    {failure : Failure}
    (hfinish : (course earlier request provider place start).finish =
      some (moment, .result (.error failure))) :
    failure.isInconclusive = false := by
  induction h generalizing earlier place start moment failure with
  | single responder own =>
    unfold course at hfinish
    split at hfinish
    · obtain ⟨ending, hending, heq⟩ := Option.map_eq_some_iff.1 hfinish
      cases heq
      exact own _ _ _ hending
    · cases hfinish
      rfl
  | pool settings members each ih =>
    let pool : Pool := ⟨settings, members⟩
    by_cases serves : pool.toProvider.canServe request = true
    · obtain ⟨d, made, policy, hcourse⟩ := pool.exists_makes_course serves earlier place start
      rw [show Provider.pool settings members = pool.toProvider from rfl, hcourse] at hfinish
      obtain ⟨_, -, heq⟩ := Option.map_eq_some_iff.1 hfinish
      obtain ⟨-, hanswer⟩ := Prod.mk.inj heq
      have policy : d.policy = Choice.firstSuccess.policy := policy
      cases made.tells policy (.refl _) (Ending.result.inj hanswer) with
      | bare member cause alone all causes_eq hcause =>
        exact made.cause_not_inconclusive (fun _ hm _ _ _ _ _ => ih _ hm) hcause
      | aggregate => rfl
      | inconclusive _ _ _ majority => cases majority
    · have hcontains :
          ¬ (allCapabilities members).contains request.capability = true := by
        simpa [pool, canServe, Pool.toProvider, capabilities] using serves
      rw [course, if_neg hcontains] at hfinish
      cases hfinish
      rfl

/-- **Causes of errors.** When a call of a pool by the first value or by majority ends with an
error, in whatever order its members end, the error tells of every member that is trusted with the
request and fails, once, with its address and its failure, and of no other. Unless a node says so of
itself, it is that the members are undecided only in a call by majority to several members, and
only if some of them have answered. -/
theorem Dispatch.error_accounting {pool : Pool} {request : Request} {choice : Choice}
    {d : Dispatch request.Answer} (made : pool.Makes request d) (policy : d.policy = choice.policy)
    {arrivals : List (Arrival d.size request.Answer)} (order : arrivals.Perm d.arrivals)
    {failure : Failure} (h : d.toOperation.answer arrivals = .error failure) :
    (List.finRange d.size).map d.toOperation.address =
        (pool.members.filter (Provider.canServe · request)).map Provider.address ∧
      Tells choice pool.members.length d.toOperation d.deeds failure ∧
      ((∀ member ∈ pool.members, member.Resolute) → failure.isInconclusive = true →
        choice = .majority ∧ pool.members.length ≠ 1 ∧
          ∃ member answer, d.deeds member = some (.result (.ok answer))) := by
  have htells := made.tells policy order h
  refine ⟨made.map_address, htells, fun resolute hinconclusive => ?_⟩
  cases htells with
  | bare member cause alone all causes_eq hcause =>
    have := made.cause_not_inconclusive
      (fun _ hm _ _ _ _ _ => (resolute _ hm).course_not_inconclusive) hcause
    rw [this] at hinconclusive
    cases hinconclusive
  | aggregate => cases hinconclusive
  | inconclusive _ _ several majority some => exact ⟨majority, several, some⟩

/-- A node that does the same whatever it is asked. -/
def Responder.steady (address : String) (capabilities : CapabilitySet) (delay : Nat)
    (ending : {α : Type} → Option (Ending α)) : Responder where
  address
  capabilities
  act _ _ := ⟨delay, ending⟩

/-- A pool of four nodes. The first one knows of nothing, the second one cannot be reached, the
third one is silent, and the last one is not trusted with anything. -/
def Pool.quartet : Pool where
  settings := { timeout := ⟨100000000⟩ }
  members :=
    [.single (.steady "http://a" .all 3 (some (.result (.ok none)))),
      .single (.steady "http://b" .all 5
        (some (.result (.error (.transport "http://b" "refused"))))),
      .single (.steady "http://c" .all 5 none),
      .single (.steady "http://d" .empty 5 (some .died))]

/-- The three members that are trusted do not agree, and two of them have failed. -/
theorem Dispatch.error_accounting_quartet :
    Pool.quartet.toProvider.canServe .nodeVersion = true ∧
      ∃ reason failures,
        (Pool.quartet.dispatch [] .nodeVersion .majority).toOperation.answer
            (Pool.quartet.dispatch [] .nodeVersion .majority).deeds.arrivals =
          .error (.inconclusive "node version" reason failures) ∧
        failures.Perm [("http://b", .transport "http://b" "refused"),
          ("http://c", .deadline "node version" "http://c")] := by
  have serves : Pool.quartet.toProvider.canServe .nodeVersion = true := rfl
  refine ⟨serves, _, _, rfl, ?_⟩
  have policy : (Pool.quartet.dispatch [] .nodeVersion .majority).policy =
      Choice.majority.policy := rfl
  obtain ⟨-, htells, -⟩ := error_accounting (Pool.makes_dispatch serves [] .majority) policy
    (arrivals_perm _).symm rfl
  cases htells with
  | bare _ _ alone => exact absurd alone (by decide)
  | inconclusive _ _ _ _ _ failures_perm => exact failures_perm

end Beacon
