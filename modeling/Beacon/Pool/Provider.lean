import Beacon.Pool.Course
import Beacon.Request

/-!
# Providers

A `Provider` is whatever can be asked for the answers of the catalog: a single node, or a pool of
providers that is asked like one. A pool asks every member that is trusted with the request. Inside
another pool it takes the first value; a `Pool` that is asked by itself chooses as its caller says.
-/

namespace Beacon

/-- What a node does when it is asked. -/
structure Act (α : Type) where
  /-- How many milliseconds it takes. -/
  delay : Nat
  ending : Option (Ending α)

/-- A single node. -/
structure Responder where
  address : String
  capabilities : CapabilitySet
  /-- What it does when it was asked before so many times. -/
  act : (request : Request) → (before : Nat) → Act request.Answer

/-- Whatever can be asked. -/
inductive Provider where
  | single (responder : Responder)
  | pool (settings : Settings) (members : List Provider)

namespace Provider

mutual

/-- The address of a provider. -/
def address : Provider → String
  | single responder => responder.address
  | pool _ members => "multi[" ++ ",".intercalate (addresses members) ++ "]"

/-- The addresses of providers. -/
def addresses : List Provider → List String
  | [] => []
  | member :: rest => member.address :: addresses rest

end

mutual

/-- What a provider is trusted with. -/
def capabilities : Provider → CapabilitySet
  | single responder => responder.capabilities
  | pool _ members => allCapabilities members

/-- What any of some providers is trusted with. -/
def allCapabilities : List Provider → CapabilitySet
  | [] => .empty
  | member :: rest => member.capabilities.union (allCapabilities rest)

end

/-- Whether a provider is trusted with a request. -/
def canServe (provider : Provider) (request : Request) : Bool :=
  provider.capabilities.contains request.capability

/-- The course of asking a provider that is not trusted with the request. -/
def refusal (request : Request) (start : Moment) : Course request.Answer where
  finish := some (start, .result (.error (.unsupported request.capability)))
  log := []

/-- The course of asking a single node. -/
def singleCourse (responder : Responder) (request : Request) (before : Nat) (place : List Nat)
    (start : Moment) : Course request.Answer :=
  let act := responder.act request before
  { finish := act.ending.map fun ending => (start.after act.delay, ending)
    log := ⟨start, place, .started⟩ :: (match act.ending with
      | some ending => [⟨start.after act.delay, place, .ended (match ending with
          | .result _ => true
          | .died => false)⟩]
      | none => []) }

mutual

/-- The course of asking a provider at a place, after what an earlier log tells. -/
def course (earlier : Log) (request : Request) :
    Provider → (place : List Nat) → (start : Moment) → Course request.Answer
  | single responder, place, start =>
    if responder.capabilities.contains request.capability then
      singleCourse responder request (earlier.starts place) place start
    else refusal request start
  | pool settings members, place, start =>
    if (allCapabilities members).contains request.capability then
      Dispatch.course {
        operation := request.operation
        policy := .firstSuccess
        settings
        isAlone := members.length = 1
        isOutermost := false
        number := earlier.dispatches place
        place
        start
        team := team earlier request members place 0 start }
    else refusal request start

/-- The members that are trusted with a request, numbered from `index` on, each with the course of
asking it, which the call sets off at its start. -/
def team (earlier : Log) (request : Request) :
    List Provider → (place : List Nat) → (index : Nat) → (start : Moment) →
      List (Member request.Answer)
  | [], _, _, _ => []
  | member :: rest, place, index, start =>
    if member.capabilities.contains request.capability then
      ⟨member.address, course earlier request member (place ++ [index]) (start.step index)⟩ ::
        team earlier request rest place (index + 1) start
    else team earlier request rest place (index + 1) start

end

end Provider

/-- Several providers that are asked like one. -/
structure Pool where
  settings : Settings
  members : List Provider

namespace Pool

/-- The pool of some providers, which must not be none. -/
def ofMembers (settings : Settings) (members : List Provider) : Except Failure Pool :=
  if members.isEmpty then .error .noEndpoints else .ok { settings, members }

/-- The pool as a provider. -/
def toProvider (pool : Pool) : Provider := .pool pool.settings pool.members

/-- A call by itself to the members that are trusted with a request, after what an earlier log
tells. -/
def dispatch (pool : Pool) (earlier : Log) (request : Request) (policy : Policy request.Answer) :
    Dispatch request.Answer where
  operation := request.operation
  policy
  settings := pool.settings
  isAlone := pool.members.length = 1
  isOutermost := true
  number := earlier.dispatches []
  place := []
  start := .opening 0
  team := Provider.team earlier request pool.members [] 0 (.opening 0)

/-- The course of a call by itself. -/
def call (pool : Pool) (earlier : Log) (request : Request) (policy : Policy request.Answer) :
    Course request.Answer :=
  if pool.toProvider.canServe request then (pool.dispatch earlier request policy).course
  else Provider.refusal request (.opening 0)

end Pool

end Beacon
