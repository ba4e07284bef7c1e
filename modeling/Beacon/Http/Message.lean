import Beacon.Http.Header

/-!
# HTTP messages

What is sent to a node and what comes back.
-/

namespace Beacon.Http

/-- A method. -/
inductive Method where
  | get
  | post
deriving DecidableEq, Repr

/-- The name of a method. -/
def Method.name : Method → String
  | .get => "GET"
  | .post => "POST"

/-- What is sent. -/
structure Request where
  method : Method
  /-- The absolute address. -/
  target : String
  headers : Headers
  body : Bytes
deriving DecidableEq

/-- What comes back. -/
structure Response where
  status : Nat
  headers : Headers
  body : Bytes
deriving DecidableEq

/-- Whether the status says that the request was served. -/
def Response.isSuccess (response : Response) : Bool :=
  200 ≤ response.status && response.status < 300

/-- How the exchange of a request for a response ends. -/
inductive Exchange where
  /-- A whole response came in time. -/
  | answered (response : Response)
  /-- There is no response, for the reason given. -/
  | broken (reason : String)
  /-- No whole response came in time. -/
  | overdue
deriving DecidableEq

end Beacon.Http
