import Std.Async.DNS
import Std.Async.TCP
import Beacon.Http.Wire
import Beacon.Inspection

/-!
# The program

`main` reads the command line, asks the nodes over TCP and prints what `Inspection.inspect` says.
While requests are under way, the answer that the pool would give if nothing more came back is
computed again and again, and taken as soon as it is final.
-/

namespace Beacon.Program

open Std.Async Std.Net

/-- Read a connection to its end. -/
partial def readToEnd (socket : TCP.Socket.Client) (done : ByteArray) : Async ByteArray := do
  match ← socket.recv? 65536 with
  | some data => readToEnd socket (done ++ data)
  | none => return done

/-- An address on the network with a port. -/
def socketAddress (port : UInt16) : IPAddr → SocketAddress
  | .v4 addr => .v4 { addr, port }
  | .v6 addr => .v6 { addr, port }

/-- The name under which a host is looked up. -/
def lookupName : Url.Host → String
  | .ipv6 pieces => Url.Ipv6.write pieces
  | host => host.write

/-- Exchange a request for a response over a connection of its own. -/
def exchange (request : Http.Request) : Async Http.Exchange := do
  match Url.parse request.target with
  | .error e => return .broken e.message
  | .ok target =>
    match target.scheme with
    | .https => return .broken "connections over TLS are not available"
    | .http =>
      let port := target.port.getD target.scheme.defaultPort
      let found ← DNS.getAddrInfo (lookupName target.host) (toString port)
      match found.toList with
      | [] => return .broken "the host has no address"
      | address :: _ =>
        let socket ← TCP.Socket.Client.mk
        socket.connect (socketAddress port.toUInt16 address)
        socket.send ⟨(Http.Wire.writeRequest target request).toArray⟩
        let data ← readToEnd socket .empty
        return Http.Wire.conclude data.toList

/-- Exchange a request, a failure of the connection being one of the exchange. -/
def exchangeSafely (request : Http.Request) : Async Http.Exchange := do
  try
    exchange request
  catch e =>
    return .broken (toString e)

/-- A node with the exchange that is under way. -/
structure Asked where
  endpoint : Endpoint
  /-- The exchange, if one was started. -/
  task : Option (AsyncTask Http.Exchange)
  /-- How it ended, if it has. -/
  delivery : Delivery := ⟨none, .overdue⟩

/-- Ask a node, if it is trusted with the request. -/
def Asked.start (request : Request) (endpoint : Endpoint) : IO Asked := do
  if endpoint.capabilities.contains request.capability then
    match (Node.Call.ofRequest request).send? endpoint with
    | some sent => return { endpoint, task := some (← (exchangeSafely sent).toIO) }
    | none => return { endpoint, task := none }
  else return { endpoint, task := none }

/-- Note the end of an exchange that has ended after some milliseconds. -/
def Asked.look (elapsed : Nat) (asked : Asked) : IO Asked := do
  match asked.delivery.delay?, asked.task with
  | none, some task =>
    if ← IO.hasFinished task then
      match task.get with
      | .ok ended => return { asked with delivery := ⟨some elapsed, ended⟩ }
      | .error e => return { asked with delivery := ⟨some elapsed, .broken (toString e)⟩ }
    else return asked
  | _, _ => return asked

/-- Wait for the answer of a pool of nodes that are being asked. -/
partial def await (settings : Settings) (choice : Choice) (request : Request) (began : Nat)
    (asked : List Asked) : IO (Except Failure (Option request.Answer)) := do
  let elapsed := (← IO.monoMsNow) - began
  let asked ← asked.mapM (Asked.look elapsed)
  let nodes := asked.map fun a =>
    Provider.single (Node.responder (fun _ _ => a.delivery) a.endpoint)
  let course := Pool.call { settings, members := nodes } [] request choice.policy
  match course.finish with
  | some (moment, .result result) =>
    if moment.ms ≤ elapsed then return result
    else
      IO.sleep 2
      await settings choice request began asked
  | _ =>
    IO.sleep 2
    await settings choice request began asked

/-- Ask the nodes at some endpoints. -/
def ask (settings : Settings) (endpoints : List Endpoint) (choice : Choice) (request : Request) :
    IO (Except Failure (Option request.Answer)) := do
  let began ← IO.monoMsNow
  await settings choice request began (← endpoints.mapM (Asked.start request))

/-- Inspect the chain on the network. -/
def inspectLive (arguments : CommandLine.Arguments) : IO Inspection.Transcript := do
  match Pool.endpointsAt arguments.addresses with
  | .error cause => return Inspection.cannotBuild cause
  | .ok endpoints =>
    Inspection.inspect (ask (Inspection.settings arguments) endpoints) arguments

/-- Print what was inspected. -/
def report (transcript : Inspection.Transcript) : IO Unit := do
  for line in transcript.lines do
    IO.println line
  for line in transcript.errorLines do
    IO.eprintln line

end Beacon.Program

open Beacon in
/-- The program. -/
def main (arguments : List String) : IO UInt32 := do
  match CommandLine.read arguments with
  | .help =>
    for line in CommandLine.helpLines do
      IO.println line
    return 0
  | .refused error =>
    IO.eprintln s!"error: {error.message}"
    return 2
  | .run arguments =>
    let transcript ← Program.inspectLive arguments
    Program.report transcript
    return transcript.exitCode.toUInt32
