import Beacon.Endpoint
import Beacon.Request

/-!
# Calls to one node

A `Call` is one request to one node: `Call.send` is what goes over the network and `Call.conclude`
is what the end of the exchange means. A status of 404 on GET means that the thing asked for does
not exist, 204 that there is nothing to tell, and every other status outside 200 to 299 is a
refusal. `Node.execute` asks for an answer of the catalog, and tells besides which call it made.
-/

namespace Beacon

namespace Node

/-- The header `Accept` of a request with GET: serialized bytes rather than JSON. -/
def acceptEither : String := "application/octet-stream;q=1,application/json;q=0.9"

/-- The header `User-Agent` of a request with POST, unless the endpoint has its own. -/
def defaultAgent : String := "ethereum-beacon-client/0.1.0"

/-- The headers of a request: those of the endpoint, and over them those of the method. -/
def headers (endpoint : Endpoint) : Http.Method → Http.Headers
  | .get => endpoint.headers.set "accept" (Utf8.encode acceptEither)
  | .post =>
    let json := Utf8.encode Encoding.json.mediaType
    let headers := (endpoint.headers.set "content-type" json).set "accept" json
    if headers.has "user-agent" then headers
    else headers.set "user-agent" (Utf8.encode defaultAgent)

/-- One request to one node. -/
structure Call where
  method : Http.Method
  /-- The path, with the query. -/
  path : String
  body : Bytes
  versioning : Versioning
deriving DecidableEq

/-- The call that a request of the catalog makes. -/
def Call.ofRequest (request : Request) : Call :=
  match request.body? with
  | some body => ⟨.post, request.path, body, request.versioning⟩
  | none => ⟨.get, request.path, [], request.versioning⟩

/-- What goes over the network, unless the address of the path is none. -/
def Call.send? (endpoint : Endpoint) (call : Call) : Option Http.Request :=
  match Url.parse (endpoint.urlFor call.path) with
  | .ok url => some ⟨call.method, url.target, headers endpoint call.method, call.body⟩
  | .error _ => none

/-- What is told of a call while it runs. -/
structure Trace where
  method : Http.Method
  path : String
  status : Option Nat := none
  encoding : Option Encoding := none
deriving DecidableEq

/-- The encoding and the fork of the payload of a served request. -/
def Call.resolve (call : Call) (response : Http.Response) :
    Option Encoding × Except Failure Reply :=
  match resolveEncoding response.headers with
  | .error e => (none, .error (.decode call.path e.message))
  | .ok encoding =>
    (some encoding,
      match call.versioning with
      | .ignored => .ok (.success encoding none response.body)
      | .required =>
        match resolveFork response.headers encoding response.body with
        | .ok fork => .ok (.success encoding (some fork) response.body)
        | .error e => .error (.decode call.path e.message))

/-- What a response means, and the encoding if it was looked for. -/
def Call.classify (call : Call) (response : Http.Response) :
    Option Encoding × Except Failure Reply :=
  if response.status = 404 ∧ call.method = .get then (none, .ok .notFound)
  else if response.status = 204 then (none, .ok .noContent)
  else if !response.isSuccess then
    (none, .error (.refused call.method.name call.path response.status response.body))
  else call.resolve response

/-- What the end of an exchange means. -/
def Call.conclude (endpoint : Endpoint) (call : Call) :
    Http.Exchange → Trace × Except Failure Reply
  | .answered response =>
    let (encoding, result) := call.classify response
    ({ method := call.method, path := call.path, status := some response.status, encoding },
      result)
  | .broken reason =>
    ({ method := call.method, path := call.path },
      .error (.transport (endpoint.urlFor call.path) reason))
  | .overdue =>
    ({ method := call.method, path := call.path },
      .error (.timeout (endpoint.urlFor call.path) endpoint.timeout))

/-- The reason why nothing is sent to an address that is none. -/
def badTarget : String := "transport failure"

/-- What a call comes to on a network. -/
def Call.run (network : Http.Request → Http.Exchange) (endpoint : Endpoint) (call : Call) :
    Trace × Except Failure Reply :=
  match call.send? endpoint with
  | some request => call.conclude endpoint (network request)
  | none => call.conclude endpoint (.broken badTarget)

/-- The answer in a reply: nothing, if the reply has no payload. -/
def readAnswer (request : Request) (reply : Reply) :
    Except Failure (Option request.Answer) :=
  if reply.isSuccess then
    match request.decode reply with
    | .ok answer => .ok (some answer)
    | .error e => .error (.decode request.path e.message)
  else .ok none

/-- Ask a node, telling the call that was made if any: none is made if the node is not trusted with
the request. -/
def execute (network : Http.Request → Http.Exchange) (endpoint : Endpoint) (request : Request) :
    Option Trace × Except Failure (Option request.Answer) :=
  if endpoint.capabilities.contains request.capability then
    let (trace, result) := (Call.ofRequest request).run network endpoint
    (some trace,
      match result with
      | .ok reply => readAnswer request reply
      | .error failure => .error failure)
  else (none, .error (.unsupported request.capability))

end Node

end Beacon
