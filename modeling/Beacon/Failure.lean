import Beacon.Bytes.Utf8
import Beacon.Capability
import Beacon.Text.Duration

/-!
# Failures

Why a call to one node or to several has no answer. The failure of a call to several nodes may hold
the failures of each of them.
-/

namespace Beacon

/-- Why a call has no answer. -/
inductive Failure where
  | badAddress (address reason : String)
  | badHeader (name reason : String)
  /-- No response came, for the reason given. -/
  | transport (endpoint reason : String)
  | timeout (endpoint : String) (limit : Duration)
  | refused (method endpoint : String) (status : Nat) (body : Bytes)
  | decode (endpoint reason : String)
  | encode (endpoint reason : String)
  /-- No node is trusted with the operation. -/
  | unsupported (capability : Capability)
  | noEndpoints
  /-- A member did not report before the deadline of the operation. -/
  | deadline (operation endpoint : String)
  /-- The task of a member ended without a report. -/
  | task (operation endpoint reason : String)
  /-- Every member failed. -/
  | aggregate (operation : String) (failures : List (String × Failure))
  /-- The members gave no answer that could be chosen. -/
  | inconclusive (operation reason : String) (failures : List (String × Failure))

/-- The failure of a member of a call, with the address of the member. -/
abbrev MemberFailure := String × Failure

namespace Failure

mutual

/-- The text of a failure. -/
def message : Failure → String
  | .badAddress address reason => s!"Invalid address \"{address}\": {reason}"
  | .badHeader name reason => s!"Invalid header \"{name}\": {reason}"
  | .transport endpoint reason => s!"Request for endpoint \"{endpoint}\" failed: {reason}"
  | .timeout endpoint limit =>
    s!"Request for endpoint \"{endpoint}\" timed out after {limit.text}"
  | .refused method endpoint status body =>
    s!"{method} {endpoint} failed with status {status}: {Utf8.decodeLossy body}"
  | .decode endpoint reason =>
    s!"Error while handling response for endpoint \"{endpoint}\": {reason}"
  | .encode endpoint reason =>
    s!"Error while encoding request for endpoint \"{endpoint}\": {reason}"
  | .unsupported capability => s!"No endpoint supports {capability.name}"
  | .noEndpoints => "No endpoint configured"
  | .deadline operation endpoint =>
    s!"{operation} on {endpoint} did not complete before the deadline"
  | .task operation endpoint reason => s!"{operation} on {endpoint} did not complete: {reason}"
  | .aggregate operation failures =>
    s!"{operation} failed on all {failures.length} endpoints: " ++
      "; ".intercalate (describe failures)
  | .inconclusive operation reason _ => s!"{operation} was inconclusive, {reason}"

/-- The texts of the failures of members, each after the address of its member. -/
def describe : List (String × Failure) → List String
  | [] => []
  | (endpoint, failure) :: rest => s!"{endpoint}: {failure.message}" :: describe rest

end

/-- Whether the node could not be reached in time, as opposed to refusing. -/
def isTransport : Failure → Bool
  | .transport .. | .timeout .. | .deadline .. => true
  | _ => false

/-- Whether the response was not understood. -/
def isDecode : Failure → Bool
  | .decode .. => true
  | _ => false

/-- The status with which the node refused. -/
def status? : Failure → Option Nat
  | .refused _ _ status _ => some status
  | _ => none

/-- The failures of the members. -/
def failures : Failure → List MemberFailure
  | .aggregate _ failures => failures
  | .inconclusive _ _ failures => failures
  | _ => []

end Failure

end Beacon
