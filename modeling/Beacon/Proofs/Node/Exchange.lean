import Beacon.Node

/-!
# Exchanges with one node

The status of a response sorts it into one of three kinds: there is nothing, the request is refused,
or it is served. `Node.Completes` says that a node is asked and answers with a whole response, and
`Node.execute_of_isNothing`, `Node.execute_of_isRefusal` and `Node.execute_of_isServed` say what
each kind of response comes to. GET and POST look at the statuses in different orders
(`Call.classify_get`, `Call.classify_post`), so that the first two are proved for each of them.
-/

namespace Beacon

/-! ### Kinds of responses -/

namespace Http.Response

/-- There is nothing: nothing to tell, or nothing where a request with GET looks. -/
def IsNothing (method : Method) (response : Response) : Prop :=
  response.status = 204 ∨ response.status = 404 ∧ method = .get

/-- The request is refused: by a status outside 200 to 299, unless it says that there is nothing. -/
def IsRefusal (method : Method) (response : Response) : Prop :=
  response.isSuccess = false ∧ ¬ (response.status = 404 ∧ method = .get)

/-- The request is served: by a status from 200 to 299 that leaves something to tell. -/
def IsServed (response : Response) : Prop :=
  response.isSuccess = true ∧ response.status ≠ 204

variable {method : Method} {response response' : Response}

theorem isSuccess_iff :
    response.isSuccess = true ↔ 200 ≤ response.status ∧ response.status < 300 := by
  simp [isSuccess]

/-- There are no other kinds. -/
theorem kind_cases (method : Method) (response : Response) :
    response.IsNothing method ∨ response.IsRefusal method ∨ response.IsServed := by
  by_cases habsent : response.status = 404 ∧ method = .get
  · exact .inl (.inr habsent)
  · cases hsuccess : response.isSuccess with
    | false => exact .inr (.inl ⟨hsuccess, habsent⟩)
    | true =>
      by_cases hempty : response.status = 204
      · exact .inl (.inl hempty)
      · exact .inr (.inr ⟨hsuccess, hempty⟩)

/-- A refusal is not one by the status for nothing to tell. -/
theorem IsRefusal.status_ne (refusal : response.IsRefusal method) : response.status ≠ 204 := by
  intro hempty
  have hsuccess : response.isSuccess = true := isSuccess_iff.2 (by omega)
  rw [refusal.1] at hsuccess
  cases hsuccess

theorem IsServed.status_ne (served : response.IsServed) : response.status ≠ 404 := by
  intro habsent
  have := isSuccess_iff.1 served.1
  omega

/-- The kind is told by the status. -/
theorem isNothing_congr (h : response'.status = response.status) :
    response'.IsNothing method ↔ response.IsNothing method := by
  rw [IsNothing, IsNothing, h]

theorem isRefusal_congr (h : response'.status = response.status) :
    response'.IsRefusal method ↔ response.IsRefusal method := by
  rw [IsRefusal, IsRefusal, isSuccess, isSuccess, h]

end Http.Response

/-! ### Calls -/

namespace Node

theorem Call.path_ofRequest (request : Request) :
    (Call.ofRequest request).path = request.path := by
  unfold Call.ofRequest
  split <;> rfl

theorem Call.versioning_ofRequest (request : Request) :
    (Call.ofRequest request).versioning = request.versioning := by
  unfold Call.ofRequest
  split <;> rfl

theorem Call.method_of_send? {endpoint : Endpoint} {call : Call} {sent : Http.Request}
    (h : call.send? endpoint = some sent) : sent.method = call.method := by
  unfold Call.send? at h
  split at h
  · cases h
    rfl
  · cases h

section

variable {call : Call} {response : Http.Response}

/-- The order in which the response to a request with GET is looked at. -/
theorem Call.classify_get (get : call.method = .get) :
    call.classify response =
      if response.status = 404 then (none, .ok .notFound)
      else if response.status = 204 then (none, .ok .noContent)
      else if !response.isSuccess then
        (none, .error (.refused "GET" call.path response.status response.body))
      else call.resolve response := by
  simp only [classify, get, and_true]
  rfl

/-- The order in which the response to a request with POST may be looked at: refusals come first. -/
theorem Call.classify_post (post : call.method = .post) :
    call.classify response =
      if !response.isSuccess then
        (none, .error (.refused "POST" call.path response.status response.body))
      else if response.status = 204 then (none, .ok .noContent)
      else call.resolve response := by
  have hget : ¬ (response.status = 404 ∧ call.method = .get) := by
    rw [post]
    nofun
  rw [classify, if_neg hget]
  by_cases hempty : response.status = 204
  · -- nothing to tell is no refusal, so that the order does not matter
    have hsuccess : response.isSuccess = true := Http.Response.isSuccess_iff.2 (by omega)
    rw [if_pos hempty, if_pos hempty, hsuccess]
    rfl
  · rw [if_neg hempty, if_neg hempty, post]
    rfl

end

/-- A node that is trusted with a request is sent it, and a whole response comes in time. -/
structure Completes (network : Http.Request → Http.Exchange) (endpoint : Endpoint)
    (request : Request) (sent : Http.Request) (response : Http.Response) : Prop where
  trusted : endpoint.capabilities.contains request.capability = true
  /-- What goes over the network. -/
  send_eq : (Call.ofRequest request).send? endpoint = some sent
  /-- What comes back. -/
  answered : network sent = .answered response

variable {network : Http.Request → Http.Exchange} {endpoint : Endpoint} {request : Request}
  {sent : Http.Request} {response : Http.Response}

/-- The response is classified, and what is served is read. -/
theorem Completes.execute_eq (completes : Completes network endpoint request sent response) :
    (execute network endpoint request).2 =
      match ((Call.ofRequest request).classify response).2 with
      | .ok reply => readAnswer request reply
      | .error failure => .error failure := by
  have hrun : ((Call.ofRequest request).run network endpoint).2 =
      ((Call.ofRequest request).classify response).2 := by
    rw [Call.run, completes.send_eq]
    show ((Call.ofRequest request).conclude endpoint (network sent)).2 = _
    rw [completes.answered]
    rfl
  rw [← hrun]
  refine (congrArg Prod.snd (if_pos completes.trusted)).trans ?_
  obtain ⟨trace, result⟩ := (Call.ofRequest request).run network endpoint
  rfl

theorem execute_of_isNothing (completes : Completes network endpoint request sent response)
    (nothing : response.IsNothing sent.method) :
    (execute network endpoint request).2 = .ok none := by
  rw [Call.method_of_send? completes.send_eq] at nothing
  rw [completes.execute_eq]
  cases hmethod : (Call.ofRequest request).method with
  | get =>
    rw [Call.classify_get hmethod]
    rcases nothing with hempty | ⟨habsent, -⟩
    · rw [hempty]
      rfl
    · rw [habsent]
      rfl
  | post =>
    rw [Call.classify_post hmethod]
    rcases nothing with hempty | ⟨-, hget⟩
    · have hsuccess : response.isSuccess = true := Http.Response.isSuccess_iff.2 (by omega)
      rw [hsuccess, hempty]
      rfl
    · rw [hmethod] at hget
      cases hget

theorem execute_of_isRefusal (completes : Completes network endpoint request sent response)
    (refusal : response.IsRefusal sent.method) :
    (execute network endpoint request).2 =
      .error (.refused sent.method.name request.path response.status response.body) := by
  rw [Call.method_of_send? completes.send_eq] at refusal ⊢
  rw [completes.execute_eq]
  cases hmethod : (Call.ofRequest request).method with
  | get =>
    have habsent : response.status ≠ 404 := fun h => refusal.2 ⟨h, hmethod⟩
    rw [Call.classify_get hmethod, if_neg habsent, if_neg refusal.status_ne, refusal.1,
      Call.path_ofRequest]
    rfl
  | post =>
    rw [Call.classify_post hmethod, refusal.1, Call.path_ofRequest]
    rfl

/-- What is served is read if it can be told what it is. -/
theorem execute_of_isServed (completes : Completes network endpoint request sent response)
    (served : response.IsServed) :
    (execute network endpoint request).2 =
      match ((Call.ofRequest request).resolve response).2 with
      | .ok reply => readAnswer request reply
      | .error failure => .error failure := by
  have habsent : ¬ (response.status = 404 ∧ (Call.ofRequest request).method = .get) :=
    fun h => served.status_ne h.1
  rw [completes.execute_eq, Call.classify, if_neg habsent, if_neg served.2, served.1]
  rfl

end Node

end Beacon
