import Beacon.Json.Codec

/-!
# JSON records

A record has named members, each with a codec of its own. It is written as an object with the
members in their order. It is read from an object whose members may come in any order and among
others, which are skipped; a member that comes twice or not at all is an error. It is also read
from an array of its members in their order.
-/

namespace Beacon.Json

/-- A member of a record: its name, the type of its values, and how these are written and read. -/
structure Member where
  name : String
  Value : Type
  codec : Codec Value
  /-- Its value in an object that lacks it, if it may be lacking. -/
  absent : Option Value := none

/-- One value for each member. -/
abbrev Row : List Member → Type
  | [] => Unit
  | m :: ms => m.Value × Row ms

/-- The values of the members read so far. -/
abbrev Slots : List Member → Type
  | [] => Unit
  | m :: ms => Option m.Value × Slots ms

namespace Slots

/-- Nothing read yet. -/
def empty : (ms : List Member) → Slots ms
  | [] => ()
  | _ :: ms => (none, empty ms)

/-- Read the value of the member with a name; there is no answer if no member has it. -/
def put : (ms : List Member) → Slots ms → String → Node → Option (Except Error (Slots ms))
  | [], _, _, _ => none
  | m :: ms, (slot, slots), name, node =>
    if m.name = name then
      match slot with
      | some _ => some (.error (.duplicate name))
      | none => some ((m.codec.read node).map fun value => (some value, slots))
    else
      (put ms slots name node).map fun result => result.map fun slots => (slot, slots)

/-- Read the members of an object in the order of the text. -/
def readMembers (ms : List Member) (slots : Slots ms) :
    List (StringBody × Node) → Except Error (Slots ms)
  | [] => .ok slots
  | (key, node) :: rest =>
    match key.toString? with
    | none => .error .malformed
    | some name =>
      match put ms slots name node with
      | some (.ok slots) => readMembers ms slots rest
      | some (.error e) => .error e
      | none => if node.isWhole then readMembers ms slots rest else .error .malformed

/-- The values of all members, the first one that is lacking being reported. -/
def complete : (ms : List Member) → Slots ms → Except Error (Row ms)
  | [], _ => .ok ()
  | m :: ms, (slot, slots) =>
    match slot <|> m.absent with
    | none => .error (.missing m.name)
    | some value => (complete ms slots).map fun values => (value, values)

end Slots

namespace Row

/-- The members of a record as an object. -/
def write : (ms : List Member) → Row ms → List (StringBody × Node)
  | [], _ => []
  | m :: ms, (value, values) => (.ofString m.name, m.codec.write value) :: write ms values

/-- Read the items of an array as the members from number `index` on. -/
def readItems (expected : String) (closed : Bool) :
    (ms : List Member) → (index : Nat) → List Node → Except Error (Row ms)
  | [], _, items => if items.isEmpty && closed then .ok () else .error .malformed
  | _ :: _, index, [] => .error (if closed then .wrongCount index expected else .malformed)
  | m :: ms, index, item :: rest =>
    match m.codec.read item with
    | .error e => .error e
    | .ok value => (readItems expected closed ms (index + 1) rest).map fun values => (value, values)

end Row

namespace Codec

/-- The words for a record and the number of its members. -/
def shape (name : String) (ms : List Member) : String :=
  s!"struct {name} with {ms.length} " ++ (if ms.length = 1 then "element" else "elements")

/-- A record. -/
def record (name : String) (ms : List Member) : Codec (Row ms) where
  write := fun row => .object (Row.write ms row) true
  read := fun node =>
    match node with
    | .object members closed =>
      match Slots.readMembers ms (Slots.empty ms) members with
      | .error e => .error e
      | .ok slots => if closed then Slots.complete ms slots else .error .malformed
    | .array items closed => Row.readItems (shape name ms) closed ms 0 items
    | node => .error (node.mismatch s!"struct {name}")

/-- A value under the member `data`. -/
def data {α : Type} (codec : Codec α) : Codec α :=
  (record "DataResponse" [{ name := "data", Value := α, codec := codec }]).iso
    (fun row => row.1) (fun value => (value, ()))

end Codec

end Beacon.Json
