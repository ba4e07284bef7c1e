import Beacon.Json.Error
import Beacon.Json.Number

/-!
# JSON documents

A `Node` is a JSON value as it stands in a text, with its members in their order, keys that may
repeat, and bodies of strings that nobody has decoded yet. A text that stops being JSON still has a
node: the containers that are open at that place keep what came before it and are marked as not
closed. So a reader that walks a node meets values and the end of the JSON in the order of the
text. `Document.parse` builds the node with a stack of open containers, one token at a time, and
`Node.write` is the compact text of a node.
-/

namespace Beacon.Json

/-- A JSON value as it stands in a text. -/
inductive Node where
  | null
  | bool (value : Bool)
  /-- A number, as written. -/
  | number (text : Bytes)
  | string (body : StringBody)
  /-- An array, and whether its end was reached. -/
  | array (items : List Node) (closed : Bool)
  /-- An object, and whether its end was reached. -/
  | object (members : List (StringBody × Node)) (closed : Bool)
  /-- The place where the text stops being JSON. -/
  | broken

namespace Node

/-- Whether a value was read to its end. A container is closed only if everything in it is. -/
def isWhole : Node → Bool
  | .array _ closed => closed
  | .object _ closed => closed
  | .broken => false
  | _ => true

/-- The value of a numeral without fraction or exponent. -/
def integer? (text : Bytes) : Option Int :=
  match text with
  | 0x2D :: digits =>
    if digits.all Token.isDigit then some (-(Token.decimal digits : Int)) else none
  | digits => if digits.all Token.isDigit then some (Token.decimal digits : Int) else none

/-- The value of a numeral that is an integer of 64 bits, with or without sign. A zero with a sign
is none. -/
def integer64? (text : Bytes) : Option Int :=
  match integer? text with
  | some n =>
    if (text.head? = some 0x2D ∧ n = 0) ∨ n < -9223372036854775808 ∨ UInt64.size ≤ n then none
    else some n
  | none => none

/-- The words for a value that stands where another kind is expected. -/
def found : Node → Except Error Found
  | .null => .ok .null
  | .bool value => .ok (.boolean value)
  | .number text =>
    if (integer64? text).isSome then .ok (.integer (Utf8.decodeLossy text))
    else
      match Number.text? text with
      | some shown => .ok (.decimal shown)
      | none => .error .malformed
  | .string body =>
    match body.toString? with
    | some text => .ok (.text text)
    | none => .error .malformed
  | .array _ _ => .ok .sequence
  | .object _ _ => .ok .map
  | .broken => .error .malformed

/-- The error for a value that stands where another kind is expected. -/
def mismatch (node : Node) (expected : String) : Error :=
  match node.found with
  | .ok found => .wrongKind found expected
  | .error e => e

mutual

/-- The tokens of a value. -/
def tokens : Node → List Token
  | .null => [.null]
  | .bool value => [.bool value]
  | .number text => [.number text]
  | .string body => [.string body]
  | .array items _ => .openArray :: (itemTokens items ++ [.closeArray])
  | .object members _ => .openObject :: (memberTokens members ++ [.closeObject])
  | .broken => [.junk]

/-- The tokens of items, with commas between them. -/
def itemTokens : List Node → List Token
  | [] => []
  | item :: rest => tokens item ++ moreItemTokens rest

/-- The tokens of items that follow another one. -/
def moreItemTokens : List Node → List Token
  | [] => []
  | item :: rest => .comma :: (tokens item ++ moreItemTokens rest)

/-- The tokens of members, with commas between them. -/
def memberTokens : List (StringBody × Node) → List Token
  | [] => []
  | (key, value) :: rest =>
    .string key :: .colon :: (tokens value ++ moreMemberTokens rest)

/-- The tokens of members that follow another one. -/
def moreMemberTokens : List (StringBody × Node) → List Token
  | [] => []
  | (key, value) :: rest =>
    .comma :: .string key :: .colon :: (tokens value ++ moreMemberTokens rest)

end

/-- The compact text of a value. -/
def write (node : Node) : Bytes := node.tokens.flatMap Token.write

end Node

/-- A container that is still open. -/
inductive Frame where
  /-- An array, with its items so far, last one first. -/
  | items (before : List Node)
  /-- An object, with its members so far, last one first. -/
  | members (before : List (StringBody × Node))
  /-- An object that waits for the value of a key. -/
  | member (before : List (StringBody × Node)) (key : StringBody)

namespace Frame

/-- The frame after a value has been read in it. -/
def add (value : Node) : Frame → Frame
  | .items before => .items (value :: before)
  | .members before => .members before
  | .member before key => .members ((key, value) :: before)

/-- The container when the text stops being JSON inside `value`. -/
def breakIn (value : Node) : Frame → Node
  | .items before => .array (value :: before).reverse false
  | .members before => .object before.reverse false
  | .member before key => .object ((key, value) :: before).reverse false

/-- The container when the text stops being JSON between its values. -/
def breakAfter : Frame → Node
  | .items before => .array before.reverse false
  | .members before => .object before.reverse false
  | .member before key => .object ((key, .broken) :: before).reverse false

end Frame

/-- What may come next. -/
inductive Expecting where
  | value
  /-- The first item or member of the container just opened, or its end. -/
  | first
  /-- A comma or the end of the container. -/
  | more
  | key
  | colon

/-- A value and the tokens after it. -/
structure Document where
  root : Node
  rest : List Token

namespace Document

/-- The document of a text that stops being JSON, the open containers being given, innermost
first. -/
def broken : List Frame → Document
  | [] => ⟨.broken, []⟩
  | frame :: outer => ⟨outer.foldl (fun inner frame => frame.breakIn inner) frame.breakAfter, []⟩

/-- What a token does to a value part way through. -/
inductive Step where
  | more (expecting : Expecting) (frames : List Frame)
  | complete (root : Node)
  /-- The token cannot stand here. -/
  | stop

/-- A value is complete inside the open containers. -/
def Step.finish (value : Node) : List Frame → Step
  | [] => .complete value
  | frame :: outer => .more .more (frame.add value :: outer)

/-- A token where a value is expected. -/
def stepValue (frames : List Frame) : Token → Step
  | .null => .finish .null frames
  | .bool value => .finish (.bool value) frames
  | .number text => .finish (.number text) frames
  | .string body => .finish (.string body) frames
  | .openArray => .more .first (.items [] :: frames)
  | .openObject => .more .first (.members [] :: frames)
  | _ => .stop

/-- A token inside the open containers, innermost first. -/
def step : Expecting → List Frame → Token → Step
  | .value, frames, token => stepValue frames token
  | .first, .items [] :: outer, .closeArray => .finish (.array [] true) outer
  | .first, .items before :: outer, token => stepValue (.items before :: outer) token
  | .first, .members [] :: outer, .closeObject => .finish (.object [] true) outer
  | .first, .members before :: outer, .string key => .more .colon (.member before key :: outer)
  | .more, .items before :: outer, .comma => .more .value (.items before :: outer)
  | .more, .items before :: outer, .closeArray => .finish (.array before.reverse true) outer
  | .more, .members before :: outer, .comma => .more .key (.members before :: outer)
  | .more, .members before :: outer, .closeObject => .finish (.object before.reverse true) outer
  | .key, .members before :: outer, .string key => .more .colon (.member before key :: outer)
  | .colon, frames, .colon => .more .value frames
  | _, _, _ => .stop

/-- Read tokens inside the open containers. -/
def build : Expecting → List Frame → List Token → Document
  | _, frames, [] => broken frames
  | expecting, frames, token :: rest =>
    match step expecting frames token with
    | .more expecting frames => build expecting frames rest
    | .complete root => ⟨root, rest⟩
    | .stop => broken frames

/-- The document of a text. -/
def parse (text : Bytes) : Document := build .value [] (Token.scan text)

end Document

end Beacon.Json
