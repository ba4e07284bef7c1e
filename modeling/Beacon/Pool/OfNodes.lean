import Beacon.Node
import Beacon.Pool.Provider

/-!
# Pools of nodes

Nodes on a network as members of a pool. The network says how long an exchange takes and how it
ends; an exchange that takes longer than its endpoint allows is overdue.
-/

namespace Beacon

/-- How long an exchange takes, in milliseconds, and how it ends; one that never ends has no
delay. -/
structure Delivery where
  delay? : Option Nat
  exchange : Http.Exchange

/-- Where requests are sent: the delivery of a request to a node that was asked so often before. -/
abbrev Network := (before : Nat) → Http.Request → Delivery

/-- The delivery within a limit. -/
def Delivery.within (delivery : Delivery) (limit : Duration) : Nat × Http.Exchange :=
  match delivery.delay? with
  | some delay =>
    if delay < limit.milliseconds then (delay, delivery.exchange)
    else (limit.milliseconds, .overdue)
  | none => (limit.milliseconds, .overdue)

namespace Node

/-- A node on a network. -/
def responder (network : Network) (endpoint : Endpoint) : Responder where
  address := endpoint.address.write
  capabilities := endpoint.capabilities
  act request before :=
    let deliver (sent : Http.Request) : Nat × Http.Exchange :=
      (network before sent).within endpoint.timeout
    let delay := match (Call.ofRequest request).send? endpoint with
      | some sent => (deliver sent).1
      | none => 0
    { delay
      ending := some (.result (execute (fun sent => (deliver sent).2) endpoint request).2) }

end Node

namespace Pool

/-- The pool of the nodes at some endpoints. -/
def ofEndpoints (network : Network) (settings : Settings) (endpoints : List Endpoint) :
    Except Failure Pool :=
  ofMembers settings (endpoints.map fun endpoint => .single (Node.responder network endpoint))

/-- The endpoints at some addresses, the first that cannot be used being reported. -/
def endpointsAt : List String → Except Failure (List Endpoint)
  | [] => .ok []
  | address :: rest =>
    match Endpoint.ofAddress address with
    | .error failure => .error failure
    | .ok endpoint => (endpointsAt rest).map (endpoint :: ·)

/-- The pool of the nodes at some addresses. -/
def ofAddresses (network : Network) (settings : Settings) (addresses : List String) :
    Except Failure Pool :=
  match endpointsAt addresses with
  | .ok endpoints => ofEndpoints network settings endpoints
  | .error failure => .error failure

end Pool

end Beacon
