import Beacon.Failure
import Beacon.Http.Header
import Beacon.Url.Basic

/-!
# Endpoints

What is known beforehand of a node: its address, how long a call to it may take, the headers sent
along with every request, and what it is trusted with.
-/

namespace Beacon

/-- How long a call may take unless something else is said. -/
def defaultTimeout : Duration := .ofSeconds 120

/-- What is known beforehand of a node: its address, how long a call to it may take, the headers
that are sent with every request, and what it is trusted with. -/
structure Endpoint where
  address : Url
  timeout : Duration := defaultTimeout
  headers : Http.Headers := []
  capabilities : CapabilitySet := .all

namespace Endpoint

/-- The endpoint at an address, trusted with everything. -/
def ofAddress (address : String) : Except Failure Endpoint :=
  match Url.parse address with
  | .ok url => .ok { address := url }
  | .error e => .error (.badAddress address e.message)

/-- The endpoint with another limit. -/
def withTimeout (endpoint : Endpoint) (timeout : Duration) : Endpoint :=
  { endpoint with timeout := timeout }

/-- The endpoint with other capabilities. -/
def withCapabilities (endpoint : Endpoint) (capabilities : CapabilitySet) : Endpoint :=
  { endpoint with capabilities := capabilities }

/-- The endpoint with a header sent along, in place of an earlier one of that name. -/
def withHeader (endpoint : Endpoint) (name value : String) : Except Failure Endpoint :=
  match Http.parseName name, Http.parseValue value with
  | .ok n, .ok v => .ok { endpoint with headers := endpoint.headers.set n v }
  | .error e, _ => .error (.badHeader name e.message)
  | _, .error e => .error (.badHeader name e.message)

/-- A text without the slashes at its end. -/
def dropSlashes (text : String) : String :=
  String.ofList ((text.toList.reverse.dropWhile (· = '/')).reverse)

/-- The text of the address of a path on the node. -/
def urlFor (endpoint : Endpoint) (path : String) : String :=
  dropSlashes endpoint.address.write ++ path

end Endpoint

end Beacon
