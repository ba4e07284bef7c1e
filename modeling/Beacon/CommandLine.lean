import Beacon.Text.Numeral

/-!
# The command line

The options of the program and how they are read. An option is written `--name VALUE` or
`--name=VALUE`, one with a letter also `-n VALUE`, `-nVALUE` or `-n=VALUE`. A value that is an
argument of its own may not look like an option. Every option but the address is given at most
once. What is wrong is reported in the order of the arguments, and help is given where it is asked
for unless something before that is wrong.
-/

namespace Beacon.CommandLine

/-- What the program is asked to do. -/
structure Arguments where
  addresses : List String
  timeoutSeconds : UInt64
  stateId : String
  blockId : String
  majority : Bool
  /-- Whether the members that have answered decide when the deadline passes. -/
  bestEffort : Bool
deriving DecidableEq, Repr

/-- Why arguments are refused. -/
inductive Error where
  /-- There is no such option, or an argument is no option at all. -/
  | unknown (argument : String)
  | missingValue (option : String)
  | unexpectedValue (option : String)
  | repeated (option : String)
  | badNumber (option value : String) (reason : Numeral.Error)
  | noAddress
deriving DecidableEq, Repr

/-- The text of an error. -/
def Error.message : Error → String
  | .unknown argument => s!"unexpected argument '{argument}'"
  | .missingValue option => s!"a value is required for '{option}'"
  | .unexpectedValue option => s!"no value is expected for '{option}'"
  | .repeated option => s!"'{option}' cannot be given more than once"
  | .badNumber option value reason => s!"invalid value '{value}' for '{option}': {reason.message}"
  | .noAddress => "at least one '--beacon-node-address' is required"

/-- How reading the arguments ends. -/
inductive Reading where
  | run (arguments : Arguments)
  | help
  | refused (error : Error)
deriving DecidableEq, Repr

/-- An option. -/
inductive Key where
  | address
  | timeout
  | stateId
  | blockId
  | majority
  | bestEffort
  | help
deriving DecidableEq, Repr

namespace Key

/-- Every option. -/
def all : List Key := [.address, .timeout, .stateId, .blockId, .majority, .bestEffort, .help]

/-- The name of an option. -/
def name : Key → String
  | .address => "--beacon-node-address"
  | .timeout => "--timeout-secs"
  | .stateId => "--state-id"
  | .blockId => "--block-id"
  | .majority => "--majority"
  | .bestEffort => "--best-effort"
  | .help => "--help"

/-- The letter of an option. -/
def letter? : Key → Option Char
  | .address => some 'b'
  | .timeout => some 't'
  | .help => some 'h'
  | _ => none

/-- Whether an option has a value. -/
def hasValue : Key → Bool
  | .address | .timeout | .stateId | .blockId => true
  | _ => false

/-- The words about an option in the help. -/
def description : Key → String
  | .address => "-b, --beacon-node-address <ADDRESS>  A node to ask; give it again for more nodes"
  | .timeout => "-t, --timeout-secs <SECONDS>         Deadline of each operation [default: 120]"
  | .stateId => "    --state-id <STATE>               The state to inspect [default: head]"
  | .blockId => "    --block-id <BLOCK>               The block to inspect [default: head]"
  | .majority => "    --majority                       Only accept what most of the nodes say"
  | .bestEffort => "    --best-effort                    Let the nodes that answered in time decide"
  | .help => "-h, --help                           Print help"

end Key

/-- The lines of the help. -/
def helpLines : List String := "Options:" :: Key.all.map fun key => "  " ++ key.description

/-- The options read so far. -/
structure Draft where
  addresses : List String := []
  timeout : Option UInt64 := none
  stateId : Option String := none
  blockId : Option String := none
  majority : Bool := false
  bestEffort : Bool := false

namespace Draft

/-- Whether an option that may be given once was given. -/
def isGiven (draft : Draft) : Key → Bool
  | .timeout => draft.timeout.isSome
  | .stateId => draft.stateId.isSome
  | .blockId => draft.blockId.isSome
  | .majority => draft.majority
  | .bestEffort => draft.bestEffort
  | _ => false

/-- The draft with the value of an option. -/
def put (draft : Draft) (key : Key) (value : String) : Except Error Draft :=
  if draft.isGiven key then .error (.repeated key.name)
  else
    match key with
    | .address => .ok { draft with addresses := draft.addresses ++ [value] }
    | .timeout =>
      match Numeral.read value with
      | .ok n => .ok { draft with timeout := some n }
      | .error e => .error (.badNumber key.name value e)
    | .stateId => .ok { draft with stateId := some value }
    | .blockId => .ok { draft with blockId := some value }
    | .majority => .ok { draft with majority := true }
    | .bestEffort => .ok { draft with bestEffort := true }
    | .help => .ok draft

/-- What a draft asks for. -/
def complete (draft : Draft) : Reading :=
  if draft.addresses.isEmpty then .refused .noAddress
  else .run {
    addresses := draft.addresses
    timeoutSeconds := draft.timeout.getD 120
    stateId := draft.stateId.getD "head"
    blockId := draft.blockId.getD "head"
    majority := draft.majority
    bestEffort := draft.bestEffort }

end Draft

/-- An argument that looks like an option, with the value that is attached to it. -/
structure Mark where
  key : Option Key
  attached : Option String

/-- The value after an equals sign. -/
def attachedAfter : List Char → Option String
  | '=' :: value => some (String.ofList value)
  | _ => none

/-- An argument as an option. -/
def mark? (argument : String) : Option Mark :=
  match argument.toList with
  | '-' :: '-' :: name =>
    let name := name.takeWhile (· ≠ '=')
    some ⟨Key.all.find? fun key => key.name = String.ofList ('-' :: '-' :: name),
      attachedAfter (argument.toList.drop (name.length + 2))⟩
  | '-' :: letter :: value =>
    some ⟨Key.all.find? fun key => key.letter? = some letter,
      match value with
      | [] => none
      | '=' :: rest => some (String.ofList rest)
      | _ => some (String.ofList value)⟩
  | _ => none

/-- Go on with a draft, unless it is refused. -/
def andThen (draft : Except Error Draft) (next : Draft → Reading) : Reading :=
  match draft with
  | .ok draft => next draft
  | .error e => .refused e

/-- Read arguments after a draft. -/
def readAfter (draft : Draft) : List String → Reading
  | [] => draft.complete
  | ["--"] => draft.complete
  | "--" :: next :: _ => .refused (.unknown next)
  | argument :: rest =>
    match mark? argument with
    | none => .refused (.unknown argument)
    | some ⟨none, _⟩ => .refused (.unknown argument)
    | some ⟨some key, attached⟩ =>
      if key.hasValue then
        match attached, rest with
        | some value, rest => andThen (draft.put key value) fun draft => readAfter draft rest
        | none, value :: rest =>
          if (mark? value).isSome then .refused (.missingValue key.name)
          else andThen (draft.put key value) fun draft => readAfter draft rest
        | none, [] => .refused (.missingValue key.name)
      else
        match key, attached with
        | .help, none => .help
        | .help, some _ =>
          if argument.startsWith "--" then .refused (.unexpectedValue key.name) else .help
        | key, some _ => .refused (.unexpectedValue key.name)
        | key, none => andThen (draft.put key "") fun draft => readAfter draft rest

/-- Read the arguments of the program. -/
def read (arguments : List String) : Reading := readAfter {} arguments

end Beacon.CommandLine
