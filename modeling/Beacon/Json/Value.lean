import Beacon.Json.Codec

/-!
# Free JSON values

A `Value` is a JSON value of any shape, decoded. The members of an object are sorted by name, and
of members with one name the last one counts. Numbers with a point are kept in their shortest text,
so that equal values are equal terms but for the sign of a zero: `0.0` and `-0.0` are equal, and
their texts are not. A value may hold at most 127 containers inside each other, those around it
included.
-/

namespace Beacon.Json

/-- A JSON value of any shape: numbers are integers of 64 bits, with or without sign, or other
numbers in their shortest text, and the members of an object are in the order of their names. -/
inductive Value where
  | null
  | bool (value : Bool)
  | integer (value : Int)
  | decimal (text : Bytes)
  | string (text : String)
  | array (items : List Value)
  | object (members : List (String × Value))

namespace Value

/-- The text of a number with a point, a zero without its sign. -/
def unsignedZero (text : Bytes) : Bytes :=
  if text = Utf8.encode "-0.0" then Utf8.encode "0.0" else text

mutual

/-- Whether two values are the same. -/
def same : Value → Value → Bool
  | .null, .null => true
  | .bool a, .bool b => a == b
  | .integer a, .integer b => a == b
  | .decimal a, .decimal b => unsignedZero a == unsignedZero b
  | .string a, .string b => a == b
  | .array a, .array b => sameItems a b
  | .object a, .object b => sameMembers a b
  | _, _ => false

/-- Whether two lists of values are the same. -/
def sameItems : List Value → List Value → Bool
  | [], [] => true
  | a :: as, b :: bs => same a b && sameItems as bs
  | _, _ => false

/-- Whether two lists of members are the same. -/
def sameMembers : List (String × Value) → List (String × Value) → Bool
  | [], [] => true
  | (m, a) :: as, (n, b) :: bs => m == n && same a b && sameMembers as bs
  | _, _ => false

end

mutual

theorem same_self : (a : Value) → same a a = true
  | .null => rfl
  | .bool _ => by simp [same]
  | .integer _ => by simp [same]
  | .decimal _ => by simp [same]
  | .string _ => by simp [same]
  | .array as => by simp [same, sameItems_self as]
  | .object as => by simp [same, sameMembers_self as]

theorem sameItems_self : (as : List Value) → sameItems as as = true
  | [] => rfl
  | a :: as => by simp [sameItems, same_self a, sameItems_self as]

theorem sameMembers_self : (as : List (String × Value)) → sameMembers as as = true
  | [] => rfl
  | (_, a) :: as => by simp [sameMembers, same_self a, sameMembers_self as]

end

mutual

/-- Values that are the same are the same as the same values. -/
theorem same_congr : (a b c : Value) → same a b = true → same a c = same b c
  | .null, b, c, h => by
    cases b with
    | null => rfl
    | _ => cases h
  | .bool _, b, c, h => by
    cases b with
    | bool _ => rw [eq_of_beq h]
    | _ => cases h
  | .integer _, b, c, h => by
    cases b with
    | integer _ => rw [eq_of_beq h]
    | _ => cases h
  | .decimal _, b, c, h => by
    cases b with
    | decimal _ =>
      cases c with
      | decimal _ => simp only [same, eq_of_beq h]
      | _ => rfl
    | _ => cases h
  | .string _, b, c, h => by
    cases b with
    | string _ => rw [eq_of_beq h]
    | _ => cases h
  | .array as, b, c, h => by
    cases b with
    | array bs =>
      cases c with
      | array cs => exact sameItems_congr as bs cs h
      | _ => rfl
    | _ => cases h
  | .object as, b, c, h => by
    cases b with
    | object bs =>
      cases c with
      | object cs => exact sameMembers_congr as bs cs h
      | _ => rfl
    | _ => cases h

theorem sameItems_congr :
    (as bs cs : List Value) → sameItems as bs = true → sameItems as cs = sameItems bs cs
  | [], [], _, _ => rfl
  | _ :: _, _ :: _, [], _ => rfl
  | a :: as, b :: bs, c :: cs, h => by
    simp only [sameItems, Bool.and_eq_true] at h
    simp only [sameItems, same_congr a b c h.1, sameItems_congr as bs cs h.2]

theorem sameMembers_congr :
    (as bs cs : List (String × Value)) → sameMembers as bs = true →
      sameMembers as cs = sameMembers bs cs
  | [], [], _, _ => rfl
  | _ :: _, _ :: _, [], _ => rfl
  | (m, a) :: as, (n, b) :: bs, (o, c) :: cs, h => by
    simp only [sameMembers, Bool.and_eq_true, beq_iff_eq] at h
    simp only [sameMembers, h.1.1, same_congr a b c h.1.2, sameMembers_congr as bs cs h.2]

end

instance : BEq Value := ⟨same⟩

instance : EquivBEq Value where
  rfl := same_self _
  symm {a b} h := (same_congr a b a h).symm.trans (same_self a)
  trans {a b c} h h' := (same_congr a b c h).trans h'

/-- The sign of a zero does not matter. -/
example : (Value.decimal (Utf8.encode "-0.0") == .decimal (Utf8.encode "0.0")) = true := rfl

/-- Put a member in its place; it replaces a member of its name. -/
def insertMember (name : String) (value : Value) :
    List (String × Value) → List (String × Value)
  | [] => [(name, value)]
  | (n, v) :: rest =>
    if name < n then (name, value) :: (n, v) :: rest
    else if name = n then (name, value) :: rest
    else (n, v) :: insertMember name value rest

/-- The value of a member. -/
def member? (name : String) : Value → Option Value
  | .object members => (members.find? fun m => m.1 = name).map Prod.snd
  | _ => none

mutual

/-- Read a value that may hold `room` containers inside each other. -/
def ofNode (room : Nat) : Node → Except Error Value
  | .null => .ok .null
  | .bool value => .ok (.bool value)
  | .number text =>
    match Node.integer64? text with
    | some n => .ok (.integer n)
    | none =>
      match Number.text? text with
      | some shown => .ok (.decimal (Utf8.encode shown))
      | none => .error .malformed
  | .string body =>
    match body.toString? with
    | some text => .ok (.string text)
    | none => .error .malformed
  | .array items closed =>
    match room with
    | 0 => .error .malformed
    | room + 1 =>
      match ofNodes room items with
      | .ok values => if closed then .ok (.array values) else .error .malformed
      | .error e => .error e
  | .object members closed =>
    match room with
    | 0 => .error .malformed
    | room + 1 =>
      match ofMembers room members [] with
      | .ok values => if closed then .ok (.object values) else .error .malformed
      | .error e => .error e
  | .broken => .error .malformed

/-- Read the items of an array. -/
def ofNodes (room : Nat) : List Node → Except Error (List Value)
  | [] => .ok []
  | item :: rest =>
    match ofNode room item with
    | .ok value =>
      match ofNodes room rest with
      | .ok values => .ok (value :: values)
      | .error e => .error e
    | .error e => .error e

/-- Read the members of an object, after those in `done`. -/
def ofMembers (room : Nat) :
    List (StringBody × Node) → List (String × Value) → Except Error (List (String × Value))
  | [], done => .ok done
  | (key, node) :: rest, done =>
    match key.toString? with
    | none => .error .malformed
    | some name =>
      match ofNode room node with
      | .ok value => ofMembers room rest (insertMember name value done)
      | .error e => .error e

end

mutual

/-- The JSON value of a value. -/
def toNode : Value → Node
  | .null => .null
  | .bool value => .bool value
  | .integer value => .number (Utf8.encode (toString value))
  | .decimal text => .number text
  | .string text => .string (.ofString text)
  | .array items => .array (toNodes items) true
  | .object members => .object (toMembers members) true

/-- The JSON values of a list of values. -/
def toNodes : List Value → List Node
  | [] => []
  | value :: rest => toNode value :: toNodes rest

/-- The members of an object. -/
def toMembers : List (String × Value) → List (StringBody × Node)
  | [] => []
  | (name, value) :: rest => (.ofString name, toNode value) :: toMembers rest

end

end Value

/-- The greatest number of containers inside each other. -/
def maxNesting : Nat := 127

/-- A value of any shape that stands in `around` containers. -/
def Codec.free (around : Nat) : Codec Value where
  write := Value.toNode
  read := Value.ofNode (maxNesting - around)

end Beacon.Json
