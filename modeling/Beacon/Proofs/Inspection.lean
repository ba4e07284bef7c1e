import Beacon.Inspection
import Beacon.Proofs.Node.Sidecars
import Beacon.Proofs.Pool.Timing
import Beacon.Proofs.Pool.Trust

/-!
# What stands behind the lines of an inspection

An inspection makes four calls, one after the other. The option for majorities is about two of them:
the root of a state and the header of a block are what more than half of the nodes report
(`Dispatch.HasMajority`). The genesis and the checkpoints are always the first value that comes.

* `Dispatch.hasMajority_of_answer`: an answer by majority has one, by what the members do;
* `Inspection.run_askPool`: what comes of asking nodes is always what their call is decided by;
* `Inspection.before`: what was noted before each of the calls;
* `Inspection.run_backed`: what stands behind every line that is printed;
* `Inspection.minority_printed` shows a genesis that is printed although one of three nodes reports
  it and the two others report that there is none.
-/

namespace Beacon

namespace Dispatch

variable {α : Type} (d : Dispatch α)

variable {d} in
/-- A call by the first value gives a value that only one member reports if nobody reports any
other. -/
theorem answer_of_only_value (policy : d.policy = .firstSuccess) {reporter : Fin d.size} {value : α}
    (hvalue : d.deeds reporter = some (.result (.ok (some value))))
    (only : ∀ m v, d.deeds m = some (.result (.ok (some v))) → v = value) :
    d.toOperation.answer d.arrivals = .ok (some value) := by
  have hfirst := d.toOperation.isFirst_answer policy d.arrivals_perm
  obtain ⟨v, hv⟩ := hfirst.exists_found_iff.2 ⟨reporter, value, hvalue⟩
  obtain ⟨before, a, after, harrivals, hending, -⟩ := (hfirst.found_iff v).1 hv
  have hdeed : d.deeds a.member = some a.ending := by
    refine (Deeds.mem_of_perm d.arrivals_perm).1 ?_
    rw [harrivals]
    exact List.mem_append_right before List.mem_cons_self
  rw [hv, only a.member v (hending ▸ hdeed)]

variable [BEq α]

/-- How many members a majority is measured by: if the deadline passes and the call makes do with
the reports, those that have reported, and otherwise all members. -/
def electorate : Nat :=
  if d.isLate = true ∧ d.settings.onDeadline = .bestEffort then d.deeds.responses else d.size

/-- How many members report an answer. -/
def support : Option α → Nat
  | some value => d.deeds.votes value
  | none => d.deeds.denials

/-- More than half of the members report an answer. -/
def HasMajority (answer : Option α) : Prop := d.electorate < 2 * d.support answer

omit [BEq α] in
theorem quorum_eq_electorate : d.toOperation.quorum d.arrivals = d.electorate := by
  have hquorum : d.toOperation.quorum d.arrivals =
      if d.isLate = true ∧ d.settings.onDeadline = .bestEffort then
        (d.toOperation.reports (d.toOperation.received d.arrivals)).length
      else d.size := d.toOperation.quorum_eq d.arrivals
  rw [hquorum, electorate]
  split
  · next h =>
    rw [d.toOperation.received_eq_of_isLate h.1, d.toOperation.length_reports_eq d.arrivals_perm]
  · rfl

/-- What an answer stands on: by majority that more than half of the members report it, and by the
first value that it is the first one that comes. -/
def Backs (choice : Choice) (answer : Option α) : Prop :=
  match choice with
  | .firstSuccess => IsFirst (.ok answer) d.deeds d.arrivals
  | .majority => d.HasMajority answer

variable {d} [PartialEquivBEq α]

/-- What a call by majority gives is what more than half of its members report. -/
theorem hasMajority_of_answer (policy : d.policy = .majority) {answer : Option α}
    (h : d.toOperation.answer d.arrivals = .ok answer) : d.HasMajority answer := by
  have hverdict := d.toOperation.isVerdict_quorum (Policy.isMajority_of_eq policy) d.arrivals_perm
  rw [quorum_eq_electorate, h] at hverdict
  cases answer with
  | some value => exact (hverdict.reported value rfl).1
  | none => exact hverdict.notFound_iff.1 rfl

/-- Whatever a call gives stands on what its members do. -/
theorem backs_of_answer {choice : Choice} (policy : d.policy = choice.policy) {answer : Option α}
    (h : d.toOperation.answer d.arrivals = .ok answer) : d.Backs choice answer := by
  cases choice with
  | firstSuccess =>
    have hfirst := d.toOperation.isFirst_answer policy d.arrivals_perm
    rwa [h] at hfirst
  | majority => exact hasMajority_of_answer policy h

end Dispatch

namespace Pool

/-- A pool that gives an answer has asked its members for it. -/
theorem answer_of_finish_call {pool : Pool} {earlier : Log} {request : Request}
    {policy : Policy request.Answer} {moment : Moment} {answer : Option request.Answer}
    (h : (pool.call earlier request policy).finish = some (moment, .result (.ok answer))) :
    (pool.dispatch earlier request policy).toOperation.answer
      (pool.dispatch earlier request policy).arrivals = .ok answer := by
  cases serves : pool.toProvider.canServe request with
  | false =>
    rw [call_of_not_canServe serves] at h
    cases h
  | true =>
    rw [call_eq serves, Dispatch.course] at h
    obtain ⟨finish, -, heq⟩ := Option.map_eq_some_iff.1 h
    simpa using congrArg Prod.snd heq

theorem endpointsAt_eq_ok {addresses : List String} {endpoints : List Endpoint}
    (h : endpointsAt addresses = .ok endpoints) :
    endpoints.length = addresses.length ∧ ∀ endpoint ∈ endpoints, endpoint.capabilities = .all := by
  induction addresses generalizing endpoints with
  | nil =>
    cases h
    exact ⟨rfl, nofun⟩
  | cons address rest ih =>
    rw [endpointsAt] at h
    cases hfirst : Endpoint.ofAddress address with
    | error failure =>
      rw [hfirst] at h
      cases h
    | ok first =>
      rw [hfirst] at h
      cases hrest : endpointsAt rest with
      | error failure =>
        rw [hrest] at h
        cases h
      | ok others =>
        rw [hrest] at h
        cases h
        obtain ⟨hlength, hall⟩ := ih hrest
        have hcapabilities : first.capabilities = .all := by
          unfold Endpoint.ofAddress at hfirst
          split at hfirst
          · cases hfirst
            rfl
          · cases hfirst
        exact ⟨by simp [hlength], List.forall_mem_cons.2 ⟨hcapabilities, hall⟩⟩

/-- The pool of the nodes at some addresses has a node for each of them, trusted with everything. -/
theorem exists_endpoints_of_ofAddresses {network : Network} {settings : Settings}
    {addresses : List String} {pool : Pool}
    (h : ofAddresses network settings addresses = .ok pool) :
    ∃ endpoints : List Endpoint, endpoints.length = addresses.length ∧ endpoints ≠ [] ∧
      (∀ endpoint ∈ endpoints, endpoint.capabilities = .all) ∧
      pool.members = endpoints.map fun endpoint => .single (Node.responder network endpoint) := by
  unfold ofAddresses at h
  cases hendpoints : endpointsAt addresses with
  | error failure =>
    rw [hendpoints] at h
    cases h
  | ok endpoints =>
    rw [hendpoints] at h
    obtain ⟨hlength, hall⟩ := endpointsAt_eq_ok hendpoints
    simp only [ofEndpoints, ofMembers] at h
    split at h
    · cases h
    · next hsome =>
      cases h
      refine ⟨endpoints, hlength, ?_, hall, rfl⟩
      rintro rfl
      exact hsome rfl

section

variable {network : Network} {settings : Settings} {addresses : List String} {pool : Pool}
  (h : ofAddresses network settings addresses = .ok pool)

include h

/-- Every one of these nodes is trusted with every request. -/
theorem canServe_of_mem_members (request : Request) :
    ∀ member ∈ pool.members, member.canServe request = true := by
  obtain ⟨endpoints, -, -, hall, hmembers⟩ := exists_endpoints_of_ofAddresses h
  intro member hmember
  rw [hmembers] at hmember
  obtain ⟨endpoint, hendpoint, rfl⟩ := List.mem_map.1 hmember
  rw [Provider.canServe, Provider.capabilities, Node.responder, hall endpoint hendpoint]
  rfl

/-- The nodes at some addresses are all asked in every call. -/
theorem size_dispatch_of_ofAddresses (earlier : Log) (request : Request)
    (policy : Policy request.Answer) :
    (pool.dispatch earlier request policy).size = addresses.length := by
  obtain ⟨endpoints, hlength, -, -, hmembers⟩ := exists_endpoints_of_ofAddresses h
  have hserve : pool.members.filter (Provider.canServe · request) = pool.members :=
    List.filter_eq_self.2 (canServe_of_mem_members h request)
  have hteam := congrArg List.length
    (Provider.map_address_team earlier request pool.members [] 0 (.opening 0))
  rw [List.length_map, List.length_map, hserve] at hteam
  rw [← hlength, ← List.length_map, ← hmembers, ← hteam]
  rfl

theorem canServe_toProvider_of_ofAddresses (request : Request) :
    pool.toProvider.canServe request = true := by
  obtain ⟨endpoints, -, hsome, -, hmembers⟩ := exists_endpoints_of_ofAddresses h
  have hnonempty : pool.members ≠ [] := by
    rw [hmembers]
    exact mt List.map_eq_nil_iff.1 hsome
  obtain ⟨member, hmember⟩ := List.exists_mem_of_ne_nil _ hnonempty
  rw [toProvider, Provider.canServe_pool, List.any_eq_true]
  exact ⟨member, hmember, canServe_of_mem_members h request member hmember⟩

theorem isNetworked_of_mem_members : ∀ member ∈ pool.members, member.IsNetworked := by
  obtain ⟨endpoints, -, -, -, hmembers⟩ := exists_endpoints_of_ofAddresses h
  intro member hmember
  rw [hmembers] at hmember
  obtain ⟨endpoint, -, rfl⟩ := List.mem_map.1 hmember
  exact .single network endpoint

/-- Every call to the nodes at some addresses gives the result that it is decided by. -/
theorem exists_finish_call (earlier : Log) (request : Request) (policy : Policy request.Answer) :
    ∃ moment, (pool.call earlier request policy).finish = some (moment, .result
      ((pool.dispatch earlier request policy).toOperation.answer
        (pool.dispatch earlier request policy).arrivals)) := by
  have serves := canServe_toProvider_of_ofAddresses h request
  rw [call_eq serves]
  refine (makes_dispatch serves earlier policy).returns fun member hmember earlier place start => ?_
  obtain ⟨_, _, hfinish⟩ :=
    (isNetworked_of_mem_members h member hmember).exists_finish earlier request place start
  rw [hfinish]
  rfl

end

end Pool

namespace Inspection

open CommandLine

variable {pool : Pool} {arguments : Arguments}

/-! ### The calls -/

/-- What comes of asking the nodes at some addresses is what their call is decided by: no call to
them goes on for ever. -/
theorem run_askPool {network : Network} {settings : Settings} {addresses : List String}
    (h : Pool.ofAddresses network settings addresses = .ok pool) (choice : Choice)
    (request : Request) (earlier : Log) :
    (askPool pool choice request).run earlier =
      ((pool.dispatch earlier request choice.policy).toOperation.answer
          (pool.dispatch earlier request choice.policy).arrivals,
        earlier ++ (pool.call earlier request choice.policy).log) := by
  obtain ⟨moment, hfinish⟩ := Pool.exists_finish_call h earlier request choice.policy
  simp only [askPool, StateT.run_bind, StateT.run_get, StateT.run_set, pure_bind, hfinish]
  rfl

/-- The calls of an inspection, in their order. -/
def calls (arguments : Arguments) : List (Choice × Request) :=
  [(.firstSuccess, .genesis), (choice arguments, .stateRoot arguments.stateId),
    (.firstSuccess, .finalityCheckpoints arguments.stateId),
    (choice arguments, .blockHeader arguments.blockId)]

/-- What is noted in some calls of a pool, each made after the ones before it. -/
def logAfter (pool : Pool) (calls : List (Choice × Request)) : Log :=
  calls.foldl (fun earlier (choice, request) =>
    earlier ++ (pool.call earlier request choice.policy).log) []

/-- What is noted before a call of an inspection, by its number. -/
def before (pool : Pool) (arguments : Arguments) (number : Nat) : Log :=
  logAfter pool ((calls arguments).take number)

section

variable (pool : Pool) (arguments : Arguments) (number : Nat) (choice : Choice) (request : Request)

/-- What a call of an inspection comes to, by its number. -/
def outcome : Except Failure (Option request.Answer) :=
  match (pool.call (before pool arguments number) request choice.policy).finish with
  | some (_, .result result) => result
  | _ => .error (.deadline request.operation pool.toProvider.address)

/-- The answer of a call of an inspection stands on what the nodes do. -/
def IsGiven (answer : Option request.Answer) : Prop :=
  (pool.dispatch (before pool arguments number) request choice.policy).Backs choice answer

variable {pool arguments number choice request} in
theorem isGiven_of_outcome {answer : Option request.Answer}
    (h : outcome pool arguments number choice request = .ok answer) :
    IsGiven pool arguments number choice request answer := by
  unfold outcome at h
  split at h
  · next moment result hfinish =>
    rw [h] at hfinish
    exact Dispatch.backs_of_answer rfl (Pool.answer_of_finish_call hfinish)
  · cases h

/-- An inspection goes on with what a call comes to, behind everything that the call notes. -/
theorem run_askPool_bind (next : Except Failure (Option request.Answer) → StateM Log Transcript) :
    ((askPool pool choice request >>= next).run (before pool arguments number)).1 =
      ((next (outcome pool arguments number choice request)).run
        (before pool arguments number ++
          (pool.call (before pool arguments number) request choice.policy).log)).1 := by
  simp only [askPool, outcome, bind_assoc, StateT.run_bind, StateT.run_get, StateT.run_set,
    pure_bind]
  rcases (pool.call (before pool arguments number) request choice.policy).finish with
    _ | ⟨moment, result | _⟩ <;> rfl

end

/-! ### The lines -/

/-- What stands behind a line that is printed. -/
inductive IsBacked (pool : Pool) (arguments : Arguments) : String → Prop where
  | genesis {genesis : Genesis} {line : String}
    (given : IsGiven pool arguments 0 .firstSuccess .genesis (some genesis))
    (hline : line ∈ genesisLines genesis) : IsBacked pool arguments line
  | stateRoot {root : Option Digest}
    (given : IsGiven pool arguments 1 (choice arguments) (.stateRoot arguments.stateId) root) :
    IsBacked pool arguments (stateRootLine arguments.stateId root)
  | finality {checkpoints : Option FinalityCheckpoints}
    (given : IsGiven pool arguments 2 .firstSuccess (.finalityCheckpoints arguments.stateId)
      checkpoints) :
    IsBacked pool arguments (finalityLine arguments.stateId checkpoints)
  | header {report : Option HeaderReport}
    (given : IsGiven pool arguments 3 (choice arguments) (.blockHeader arguments.blockId) report) :
    IsBacked pool arguments (headerLine arguments.blockId report)

/-- What a transcript adds to the lines printed before is backed. -/
def AddsBacked (pool : Pool) (arguments : Arguments) (lines : List String)
    (transcript : Transcript) : Prop :=
  ∃ new, transcript.lines = lines ++ new ∧ ∀ line ∈ new, IsBacked pool arguments line

theorem AddsBacked.of_append {lines new : List String} {transcript : Transcript}
    (h : AddsBacked pool arguments (lines ++ new) transcript)
    (hnew : ∀ line ∈ new, IsBacked pool arguments line) :
    AddsBacked pool arguments lines transcript := by
  obtain ⟨later, hlines, hlater⟩ := h
  exact ⟨new ++ later, by rw [hlines, List.append_assoc],
    List.forall_mem_append.2 ⟨hnew, hlater⟩⟩

/-- If a call fails, nothing is added. -/
theorem addsBacked_self (lines : List String) (error : Option (String × Option Failure)) :
    AddsBacked pool arguments lines ⟨lines, error⟩ := ⟨[], (List.append_nil lines).symm, nofun⟩

/-! ### The stages -/

variable (pool arguments)

theorem addsBacked_inspectHeader (lines : List String) :
    AddsBacked pool arguments lines
      ((inspectHeader (askPool pool) arguments lines).run (before pool arguments 3)).1 := by
  rw [inspectHeader, run_askPool_bind]
  cases houtcome : outcome pool arguments 3 (choice arguments) (.blockHeader arguments.blockId) with
  | error cause => exact addsBacked_self _ _
  | ok report =>
    exact (addsBacked_self _ none).of_append
      (List.forall_mem_singleton.2 (.header (isGiven_of_outcome houtcome)))

theorem addsBacked_inspectFinality (lines : List String) :
    AddsBacked pool arguments lines
      ((inspectFinality (askPool pool) arguments lines).run (before pool arguments 2)).1 := by
  rw [inspectFinality, run_askPool_bind]
  cases houtcome : outcome pool arguments 2 .firstSuccess
      (.finalityCheckpoints arguments.stateId) with
  | error cause => exact addsBacked_self _ _
  | ok checkpoints =>
    exact (addsBacked_inspectHeader pool arguments _).of_append
      (List.forall_mem_singleton.2 (.finality (isGiven_of_outcome houtcome)))

theorem addsBacked_inspectState (lines : List String) :
    AddsBacked pool arguments lines
      ((inspectState (askPool pool) arguments lines).run (before pool arguments 1)).1 := by
  rw [inspectState, run_askPool_bind]
  cases houtcome : outcome pool arguments 1 (choice arguments) (.stateRoot arguments.stateId) with
  | error cause => exact addsBacked_self _ _
  | ok root =>
    exact (addsBacked_inspectFinality pool arguments _).of_append
      (List.forall_mem_singleton.2 (.stateRoot (isGiven_of_outcome houtcome)))

/-- What is printed when the genesis is known begins with the lines about it. -/
theorem addsBacked_of_genesis {genesis : Genesis}
    (h : outcome pool arguments 0 .firstSuccess .genesis = .ok (some genesis)) :
    AddsBacked pool arguments (genesisLines genesis)
      ((inspect (askPool pool) arguments).run []).1 := by
  have hstart : before pool arguments 0 = [] := rfl
  rw [inspect, ← hstart, run_askPool_bind, h]
  exact addsBacked_inspectState pool arguments (genesisLines genesis)

theorem addsBacked_inspect :
    AddsBacked pool arguments [] ((inspect (askPool pool) arguments).run []).1 := by
  have hstart : before pool arguments 0 = [] := rfl
  rcases houtcome : outcome pool arguments 0 .firstSuccess .genesis with cause | _ | genesis
  · rw [inspect, ← hstart, run_askPool_bind, houtcome]
    exact addsBacked_self _ _
  · rw [inspect, ← hstart, run_askPool_bind, houtcome]
    exact addsBacked_self _ _
  · refine AddsBacked.of_append (addsBacked_of_genesis pool arguments houtcome) ?_
    exact fun line hline => .genesis (isGiven_of_outcome houtcome) hline

/-- **What is printed.** An inspection of nodes puts each of its calls to all nodes, and every line
that it prints tells an answer that stands on what they do. If majorities are asked for, the line
about the root of the state and the line about the header of the block tell what more than half of
the nodes report. The lines about the genesis and the finalized checkpoint tell what the first node
with a value reports, whether majorities are asked for or not. -/
theorem run_backed (network : Network) :
    (∃ cause, run network arguments = cannotBuild cause) ∨
      ∃ pool, Pool.ofAddresses network (settings arguments) arguments.addresses = .ok pool ∧
        (∀ earlier request policy,
          (pool.dispatch earlier request policy).size = arguments.addresses.length) ∧
        ∀ line ∈ (run network arguments).lines, IsBacked pool arguments line := by
  rw [run]
  cases hpool : Pool.ofAddresses network (settings arguments) arguments.addresses with
  | error cause => exact .inl ⟨cause, rfl⟩
  | ok pool =>
    refine .inr ⟨pool, rfl, Pool.size_dispatch_of_ofAddresses hpool, ?_⟩
    obtain ⟨new, hlines, hbacked⟩ := addsBacked_inspect pool arguments
    rw [List.nil_append] at hlines
    exact hlines ▸ hbacked

/-! ### A genesis without a majority -/

/-- The genesis of a chain of its own. -/
def forgedGenesis : Genesis := ⟨7, .zero 32, .zero 4⟩

/-- The network on which one node tells of a genesis, and nothing else is known. -/
def forger : Network := fun _ sent =>
  if sent.target = "http://[::1]:5052/eth/v1/beacon/genesis" then
    ⟨some 3, .answered ⟨200, [], Genesis.codec.data.encode forgedGenesis⟩⟩
  else ⟨some 5, .answered ⟨404, [], []⟩⟩

/-- Three nodes are to be inspected, and majorities are asked for. -/
def threeNodes : Arguments where
  addresses := ["http://[::1]:5052", "http://[::1]:5053", "http://[::1]:5054"]
  timeoutSeconds := 120
  stateId := "head"
  blockId := "head"
  majority := true
  bestEffort := false

/-- The three nodes. -/
def forgedPool : Pool where
  settings := settings threeNodes
  members := [5052, 5053, 5054].map fun port => .single (Node.responder forger (.loopback port))

/-- The call for the genesis. -/
def forgedCall : Dispatch Genesis := forgedPool.dispatch [] .genesis Choice.firstSuccess.policy

set_option maxRecDepth 4096 in
theorem deeds_forgedCall :
    forgedCall.deeds ⟨0, by decide +kernel⟩ = some (.result (.ok (some forgedGenesis))) ∧
      forgedCall.deeds ⟨1, by decide +kernel⟩ = some (.result (.ok none)) ∧
      forgedCall.deeds ⟨2, by decide +kernel⟩ = some (.result (.ok none)) := ⟨rfl, rfl, rfl⟩

theorem outcome_forgedPool :
    outcome forgedPool threeNodes 0 .firstSuccess .genesis = .ok (some forgedGenesis) := by
  obtain ⟨hone, htwo, hthree⟩ := deeds_forgedCall
  have hanswer : forgedCall.toOperation.answer forgedCall.arrivals = .ok (some forgedGenesis) := by
    refine Dispatch.answer_of_only_value rfl hone fun m v hv => ?_
    obtain ⟨index, hindex⟩ := m
    have hsize : forgedCall.size = 3 := by decide +kernel
    obtain rfl | rfl | rfl : index = 0 ∨ index = 1 ∨ index = 2 := by omega
    · cases hone.symm.trans hv
      rfl
    · cases htwo.symm.trans hv
    · cases hthree.symm.trans hv
  obtain ⟨moment, hfinish⟩ := Dispatch.returns_answer (d := forgedCall) nofun
  have hcall : (forgedPool.call (before forgedPool threeNodes 0) .genesis
      Choice.firstSuccess.policy).finish = some (moment, .result (.ok (some forgedGenesis))) := by
    rw [← hanswer, ← hfinish]
    rfl
  rw [outcome, hcall]

/-- One of three nodes reports a genesis, and the two others that there is none. Its lines are
printed although majorities are asked for. -/
theorem minority_printed :
    threeNodes.majority = true ∧
      Pool.ofAddresses forger (settings threeNodes) threeNodes.addresses = .ok forgedPool ∧
      (∀ line ∈ genesisLines forgedGenesis, line ∈ (run forger threeNodes).lines) ∧
      forgedCall.size = 3 ∧ forgedCall.support (some forgedGenesis) = 1 ∧
      forgedCall.support none = 2 ∧ ¬ forgedCall.HasMajority (some forgedGenesis) := by
  have hpool : Pool.ofAddresses forger (settings threeNodes) threeNodes.addresses =
    .ok forgedPool := rfl
  have hone : forgedCall.support (some forgedGenesis) = 1 := by decide +kernel
  refine ⟨rfl, hpool, fun line hline => ?_, by decide +kernel, hone, by decide +kernel, ?_⟩
  · obtain ⟨new, hlines, -⟩ := addsBacked_of_genesis forgedPool threeNodes outcome_forgedPool
    have hrun : (run forger threeNodes).lines = genesisLines forgedGenesis ++ new := by
      rw [run, hpool, ← hlines]
    rw [hrun]
    exact List.mem_append_left new hline
  · rw [Dispatch.HasMajority, hone, Dispatch.electorate, if_neg fun h => nomatch h.2]
    decide +kernel

end Inspection

end Beacon
