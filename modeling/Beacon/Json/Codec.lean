import Beacon.Bytes.Hex
import Beacon.DataError
import Beacon.Json.Node
import Beacon.Text.Numeral

/-!
# JSON codecs

A `Codec` writes the values of a type as JSON values and reads them back. The codecs here are the
leaves of the chain objects: text, truth values, quoted 64-bit numbers, hexadecimal byte strings,
and lists of these. `Codec.decode` reads a whole text: the value first, then the end of the text.
-/

namespace Beacon.Json

/-- A way to write and read the values of a type. -/
structure Codec (α : Type) where
  write : α → Node
  read : Node → Except Error α

namespace Codec

variable {α β : Type}

/-- The compact text of a value. -/
def encode (codec : Codec α) (value : α) : Bytes := (codec.write value).write

/-- The value of a document: what is wrong inside it is reported before what follows it. -/
def decodeDocument (codec : Codec α) (document : Document) : Except Error α :=
  match codec.read document.root with
  | .error e => .error e
  | .ok value => if document.rest.isEmpty then .ok value else .error .malformed

/-- The value of a text. -/
def decode (codec : Codec α) (text : Bytes) : Except Error α :=
  codec.decodeDocument (Document.parse text)

/-- A codec for another type with the same written form. -/
def iso (codec : Codec α) (forth : α → β) (back : β → α) : Codec β where
  write := fun value => codec.write (back value)
  read := fun node => (codec.read node).map forth

/-- Text. -/
def text : Codec String where
  write := fun value => .string (.ofString value)
  read := fun node =>
    match node with
    | .string body =>
      match body.toString? with
      | some value => .ok value
      | none => .error .malformed
    | node => .error (node.mismatch "a string")

/-- Values written as text. -/
def ofText (format : α → String) (parse : String → Except Error α) : Codec α where
  write := fun value => text.write (format value)
  read := fun node =>
    match text.read node with
    | .ok value => parse value
    | .error e => .error e

/-- A truth value. -/
def bool : Codec Bool where
  write := .bool
  read := fun node =>
    match node with
    | .bool value => .ok value
    | node => .error (node.mismatch "a boolean")

/-- Read items one after the other. -/
def readAll (codec : Codec α) (done : List α) : List Node → Except Error (List α)
  | [] => .ok done.reverse
  | item :: rest =>
    match codec.read item with
    | .ok value => readAll codec (value :: done) rest
    | .error e => .error e

/-- A list. -/
def list (codec : Codec α) : Codec (List α) where
  write := fun values => .array (values.map codec.write) true
  read := fun node =>
    match node with
    | .array items closed =>
      match readAll codec [] items with
      | .ok values => if closed then .ok values else .error .malformed
      | .error e => .error e
    | node => .error (node.mismatch "a sequence")

/-- A value that may be `null`. -/
def nullable (codec : Codec α) : Codec (Option α) where
  write := fun value => (value.map codec.write).getD .null
  read := fun node =>
    match node with
    | .null => .ok none
    | node => (codec.read node).map some

/-- Read a 64-bit number from text. -/
def readQuoted (value : String) : Except Error UInt64 :=
  match Numeral.read value with
  | .ok n => .ok n
  | .error e => .error (.rejected e.message)

/-- A 64-bit number between quotes. -/
def quoted : Codec UInt64 := ofText Numeral.write readQuoted

/-- Read a byte string of `n` octets from text. -/
def readHex (n : Nat) (value : String) : Except Error (ByteVector n) :=
  match Hex.decodeVector? n value with
  | some bytes => .ok bytes
  | none => .error (.rejected DataError.badHex.message)

/-- A byte string of `n` octets in hexadecimal. -/
def hex (n : Nat) : Codec (ByteVector n) := ofText (fun v => Hex.encode v.toList) (readHex n)

/-- The tag of a fork. -/
def fork : Codec Fork :=
  ofText Fork.tag fun value =>
    match Fork.ofTag value with
    | .ok fork => .ok fork
    | .error e => .error (.rejected e.message)

/-- Read each text of a list, the first refusal being the one reported. -/
def readEach (parse : String → Except Error α) (done : List α) : List String → Except Error (List α)
  | [] => .ok done.reverse
  | value :: rest =>
    match parse value with
    | .ok v => readEach parse (v :: done) rest
    | .error e => .error e

/-- A list of values written as texts. All texts are read before the first one is converted. -/
def texts (format : α → String) (parse : String → Except Error α) : Codec (List α) where
  write := fun values => (list text).write (values.map format)
  read := fun node =>
    match (list text).read node with
    | .ok values => readEach parse [] values
    | .error e => .error e

/-- A list of 64-bit numbers between quotes. -/
def quotedList : Codec (List UInt64) := texts Numeral.write readQuoted

/-- A list of `count` byte strings of `n` octets each in hexadecimal. -/
def hexVector (n count : Nat) : Codec (Vector (ByteVector n) count) where
  write := fun values => (texts (fun v : ByteVector n => Hex.encode v.toList) (readHex n)).write
    values.toList
  read := fun node =>
    match (texts (fun v : ByteVector n => Hex.encode v.toList) (readHex n)).read node with
    | .ok values =>
      if h : values.length = count then .ok ⟨values.toArray, by simpa using h⟩
      else .error (.wrongCount values.length s!"{count} elements")
    | .error e => .error e

end Codec

end Beacon.Json
