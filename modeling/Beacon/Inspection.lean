import Beacon.CommandLine
import Beacon.Pool.OfNodes

/-!
# Inspecting the chain

What the program prints about a chain: its genesis, the root of a state, the finalized checkpoint of
that state, and the header of a block. The first thing that cannot be told ends the inspection with
an error.
-/

namespace Beacon.Inspection

open CommandLine

/-- What was printed, and the error that ended the inspection if one did. -/
structure Transcript where
  lines : List String
  /-- The error, with its cause. -/
  error : Option (String × Option Failure) := none

/-- The exit code: zero unless there is an error. -/
def Transcript.exitCode (transcript : Transcript) : UInt8 :=
  if transcript.error.isSome then 1 else 0

/-- The lines about the error: the error itself, and its cause. -/
def Transcript.errorLines (transcript : Transcript) : List String :=
  match transcript.error with
  | none => []
  | some (error, cause) =>
    ("Error: " ++ error) :: match cause with
      | none => []
      | some cause => ["", "Caused by:", "    " ++ cause.message]

/-- How calls are carried out. -/
def settings (arguments : Arguments) : Settings where
  timeout := .ofSeconds arguments.timeoutSeconds.toNat
  onDeadline := if arguments.bestEffort then .bestEffort else .fail

/-- How roots and headers are chosen. -/
def choice (arguments : Arguments) : Choice :=
  if arguments.majority then .majority else .firstSuccess

/-- The lines about the genesis. -/
def genesisLines (genesis : Genesis) : List String :=
  [s!"Genesis time: {Numeral.write genesis.time}",
    s!"Genesis validators root: {Hex.encode genesis.validatorsRoot.toList}"]

/-- The line about the root of a state. -/
def stateRootLine (stateId : String) : Option Digest → String
  | some root => s!"State root at {stateId}: {Hex.encode root.toList}"
  | none => s!"State {stateId} not found"

/-- The line about the finalized checkpoint of a state. -/
def finalityLine (stateId : String) : Option FinalityCheckpoints → String
  | some checkpoints =>
    s!"Finalized checkpoint: epoch {Numeral.write checkpoints.finalized.epoch} " ++
      s!"root {Hex.encode checkpoints.finalized.root.toList}"
  | none => s!"No finality checkpoints for state {stateId}"

/-- The line about the header of a block. -/
def headerLine (blockId : String) : Option HeaderReport → String
  | some report =>
    s!"Block {blockId}: slot {Numeral.write report.header.message.slot} " ++
      s!"root {Hex.encode report.root.toList} " ++
      "canonical " ++ (if report.canonical then "true" else "false")
  | none => s!"Block {blockId} not found"

/-- How an answer of the catalog is asked for. -/
abbrev Ask (m : Type → Type) :=
  Choice → (request : Request) → m (Except Failure (Option request.Answer))

section

variable {m : Type → Type} [Monad m]

/-- Ask for the header of the block after `lines` were printed. -/
def inspectHeader (ask : Ask m) (arguments : Arguments) (lines : List String) : m Transcript := do
  match ← ask (choice arguments) (.blockHeader arguments.blockId) with
  | .error cause => return ⟨lines, some ("Failed to fetch block header", some cause)⟩
  | .ok report => return ⟨lines ++ [headerLine arguments.blockId report], none⟩

/-- Ask for the checkpoints of the state, and for what follows, after `lines` were printed. -/
def inspectFinality (ask : Ask m) (arguments : Arguments) (lines : List String) :
    m Transcript := do
  match ← ask .firstSuccess (.finalityCheckpoints arguments.stateId) with
  | .error cause => return ⟨lines, some ("Failed to fetch finality checkpoints", some cause)⟩
  | .ok checkpoints =>
    inspectHeader ask arguments (lines ++ [finalityLine arguments.stateId checkpoints])

/-- Ask for the root of the state, and for what follows, after `lines` were printed. -/
def inspectState (ask : Ask m) (arguments : Arguments) (lines : List String) : m Transcript := do
  match ← ask (choice arguments) (.stateRoot arguments.stateId) with
  | .error cause => return ⟨lines, some ("Failed to fetch state root", some cause)⟩
  | .ok root => inspectFinality ask arguments (lines ++ [stateRootLine arguments.stateId root])

/-- Inspect the chain. -/
def inspect (ask : Ask m) (arguments : Arguments) : m Transcript := do
  match ← ask .firstSuccess .genesis with
  | .error cause => return ⟨[], some ("Failed to fetch genesis", some cause)⟩
  | .ok none => return ⟨[], some ("Genesis not found", none)⟩
  | .ok (some genesis) => inspectState ask arguments (genesisLines genesis)

end

/-- The error for nodes that cannot be asked. -/
def cannotBuild (cause : Failure) : Transcript := ⟨[], some ("Failed to build client", some cause)⟩

/-- Ask a pool, after what an earlier log tells. Calls to nodes on networks all end with a result,
so that no failure is made up for one of them. -/
def askPool (pool : Pool) (choice : Choice) (request : Request) :
    StateM Log (Except Failure (Option request.Answer)) := do
  let earlier ← get
  let course := pool.call earlier request choice.policy
  set (earlier ++ course.log)
  match course.finish with
  | some (_, .result result) => return result
  | _ => return .error (.deadline request.operation pool.toProvider.address)

/-- Inspect the chain on a network. -/
def run (network : Network) (arguments : Arguments) : Transcript :=
  match Pool.ofAddresses network (settings arguments) arguments.addresses with
  | .error cause => cannotBuild cause
  | .ok pool => ((inspect (askPool pool) arguments).run []).1

end Beacon.Inspection
