import Beacon.Bytes.Utf8

/-!
# JSON tokens

`Token.scan` cuts a JSON text into tokens. A text that stops being a sequence of tokens ends in a
`junk` token. The body of a string is kept as the bytes it stands for, escapes undone; it need not
be UTF-8, and a surrogate that lacks its partner is only noted, because a string that nobody reads
may contain either. `Token.write` is the compact text of a token.
-/

namespace Beacon.Json

/-- The body of a string. -/
structure StringBody where
  /-- The bytes that the body stands for, without surrogates that lack their partner. -/
  bytes : Bytes
  /-- Whether every surrogate has its partner. -/
  paired : Bool
deriving DecidableEq

/-- A token. -/
inductive Token where
  | openObject
  | closeObject
  | openArray
  | closeArray
  | comma
  | colon
  | null
  | bool (value : Bool)
  /-- A number, as written. -/
  | number (text : Bytes)
  | string (body : StringBody)
  /-- The place where the text stops being JSON. -/
  | junk
deriving DecidableEq

namespace StringBody

/-- The body that stands for a text. -/
def ofString (text : String) : StringBody := ⟨Utf8.encode text, true⟩

/-- The text of a body, if it has one. -/
def toString? (body : StringBody) : Option String :=
  if body.paired then Utf8.decode? body.bytes else none

/-- The hexadecimal digit of a number below 16. -/
def hexDigit (n : UInt8) : UInt8 := if n < 10 then 48 + n else 87 + n

/-- A byte of a body, escaped where a string may not hold it as it is. -/
def escape (b : UInt8) : Bytes :=
  if b = 0x22 then [0x5C, 0x22]
  else if b = 0x5C then [0x5C, 0x5C]
  else if b = 0x08 then [0x5C, 0x62]
  else if b = 0x0C then [0x5C, 0x66]
  else if b = 0x0A then [0x5C, 0x6E]
  else if b = 0x0D then [0x5C, 0x72]
  else if b = 0x09 then [0x5C, 0x74]
  else if b < 0x20 then [0x5C, 0x75, 0x30, 0x30, hexDigit (b / 16), hexDigit (b % 16)]
  else [b]

/-- A body between quotes. -/
def write (body : StringBody) : Bytes := 0x22 :: (body.bytes.flatMap escape ++ [0x22])

/-- A body part way through: the bytes so far, last one first, a high surrogate that waits for its
partner, and whether every earlier surrogate has found its own. -/
structure Draft where
  done : Bytes
  waiting : Option Nat
  paired : Bool

/-- Nothing read yet. -/
def Draft.empty : Draft := ⟨[], none, true⟩

/-- Add one byte. -/
def Draft.push (d : Draft) (b : UInt8) : Draft := ⟨b :: d.done, none, d.paired && d.waiting.isNone⟩

/-- Add the character of a code point. -/
def Draft.pushCodePoint (d : Draft) (n : Nat) : Draft :=
  ⟨(String.utf8EncodeChar (Char.ofNat n)).reverse ++ d.done, none, d.paired && d.waiting.isNone⟩

/-- Add the 16-bit unit of an escape. -/
def Draft.pushUnit (d : Draft) (unit : Nat) : Draft :=
  if 0xD800 ≤ unit ∧ unit < 0xDC00 then
    ⟨d.done, some unit, d.paired && d.waiting.isNone⟩
  else if 0xDC00 ≤ unit ∧ unit < 0xE000 then
    match d.waiting with
    | some high =>
      ({ d with waiting := none }).pushCodePoint
        (0x10000 + (high - 0xD800) * 0x400 + (unit - 0xDC00))
    | none => { d with paired := false }
  else d.pushCodePoint unit

/-- The body that a draft has become. -/
def Draft.body (d : Draft) : StringBody := ⟨d.done.reverse, d.paired && d.waiting.isNone⟩

/-- The byte of a short escape, by the byte after the backslash. -/
def shortEscape? (b : UInt8) : Option UInt8 :=
  if b = 0x22 ∨ b = 0x5C ∨ b = 0x2F then some b
  else if b = 0x62 then some 0x08
  else if b = 0x66 then some 0x0C
  else if b = 0x6E then some 0x0A
  else if b = 0x72 then some 0x0D
  else if b = 0x74 then some 0x09
  else none

/-- The value of a hexadecimal digit. -/
def hexValue? (b : UInt8) : Option Nat :=
  if 0x30 ≤ b ∧ b ≤ 0x39 then some (b.toNat - 48)
  else if 0x61 ≤ b ∧ b ≤ 0x66 then some (b.toNat - 87)
  else if 0x41 ≤ b ∧ b ≤ 0x46 then some (b.toNat - 55)
  else none

/-- The 16-bit unit written by four hexadecimal digits. -/
def unit? (a b c d : UInt8) : Option Nat :=
  match hexValue? a, hexValue? b, hexValue? c, hexValue? d with
  | some a, some b, some c, some d => some (((a * 16 + b) * 16 + c) * 16 + d)
  | _, _, _, _ => none

/-- Read a body up to its closing quote, and give it with the bytes after the quote. -/
def scan (draft : Draft) : Bytes → Option (StringBody × Bytes)
  | [] => none
  | b :: rest =>
    if b = 0x22 then some (draft.body, rest)
    else if b = 0x5C then
      match rest with
      | [] => none
      | c :: rest =>
        if c = 0x75 then
          match rest with
          | w :: x :: y :: z :: rest =>
            match unit? w x y z with
            | some unit => scan (draft.pushUnit unit) rest
            | none => none
          | _ => none
        else
          match shortEscape? c with
          | some b => scan (draft.push b) rest
          | none => none
    else if b < 0x20 then none
    else scan (draft.push b) rest

end StringBody

namespace Token

/-- The white space of JSON. -/
def isBlank (b : UInt8) : Bool := b = 0x20 || b = 0x09 || b = 0x0A || b = 0x0D

/-- An ASCII digit. -/
def isDigit (b : UInt8) : Bool := 0x30 ≤ b && b ≤ 0x39

/-- The number written by decimal digits. -/
def decimal (digits : Bytes) : Nat := digits.foldl (fun n b => n * 10 + (b.toNat - 48)) 0

/-- At least one digit, and what follows the last one. -/
def digits? (text : Bytes) : Option (Bytes × Bytes) :=
  match text.span isDigit with
  | ([], _) => none
  | found => some found

/-- The digits before a fraction: a zero alone, or digits that do not start with one. -/
def wholePart? (text : Bytes) : Option (Bytes × Bytes) :=
  match digits? text with
  | some (0x30 :: _ :: _, _) => none
  | found => found

/-- A fraction, if the text starts with a point. -/
def fraction? : Bytes → Option (Bytes × Bytes)
  | 0x2E :: rest => (digits? rest).map fun (ds, rest) => (0x2E :: ds, rest)
  | text => some ([], text)

/-- The sign of an exponent, if there is one. -/
def exponentSign : Bytes → Bytes × Bytes
  | b :: rest => if b = 0x2B ∨ b = 0x2D then ([b], rest) else ([], b :: rest)
  | [] => ([], [])

/-- An exponent, if the text starts with its letter. -/
def exponent? : Bytes → Option (Bytes × Bytes)
  | b :: rest =>
    if b = 0x65 ∨ b = 0x45 then
      let (sign, rest) := exponentSign rest
      (digits? rest).map fun (ds, rest) => (b :: sign ++ ds, rest)
    else some ([], b :: rest)
  | [] => some ([], [])

/-- A number without its sign. -/
def unsigned? (text : Bytes) : Option (Bytes × Bytes) := do
  let (whole, rest) ← wholePart? text
  let (fraction, rest) ← fraction? rest
  let (exponent, rest) ← exponent? rest
  return (whole ++ fraction ++ exponent, rest)

/-- A number. -/
def number? : Bytes → Option (Bytes × Bytes)
  | 0x2D :: rest => (unsigned? rest).map fun (text, rest) => (0x2D :: text, rest)
  | text => unsigned? text

/-- The literals, and what they stand for. -/
def words : List (Bytes × Token) :=
  [(Utf8.encode "null", .null), (Utf8.encode "true", .bool true),
    (Utf8.encode "false", .bool false)]

/-- A literal at the start of a text. -/
def word? (text : Bytes) : Option (Token × Bytes) :=
  words.findSome? fun (word, token) =>
    if word.isPrefixOf text then some (token, text.drop word.length) else none

/-- The token of a sign. -/
def sign? (b : UInt8) : Option Token :=
  if b = 0x7B then some .openObject
  else if b = 0x7D then some .closeObject
  else if b = 0x5B then some .openArray
  else if b = 0x5D then some .closeArray
  else if b = 0x2C then some .comma
  else if b = 0x3A then some .colon
  else none

/-- The token at the start of a text, and the bytes after it. -/
def next? : Bytes → Option (Token × Bytes)
  | [] => none
  | b :: rest =>
    match sign? b with
    | some token => some (token, rest)
    | none =>
      if b = 0x22 then (StringBody.scan .empty rest).map fun (body, rest) => (.string body, rest)
      else if b = 0x2D ∨ isDigit b then
        (number? (b :: rest)).map fun (text, rest) => (.number text, rest)
      else word? (b :: rest)

/-- Cut a text into tokens, at most `count` of them, after those in `done`, last one first. -/
def scanFrom (done : List Token) : (count : Nat) → Bytes → List Token
  | 0, _ => (Token.junk :: done).reverse
  | count + 1, text =>
    match text.dropWhile isBlank with
    | [] => done.reverse
    | text =>
      match next? text with
      | some (token, rest) => scanFrom (token :: done) count rest
      | none => (Token.junk :: done).reverse

/-- The tokens of a text. A token takes at least one byte, so there are no more than bytes. -/
def scan (text : Bytes) : List Token := scanFrom [] (text.length + 1) text

/-- The compact text of a token. -/
def write : Token → Bytes
  | .openObject => [0x7B]
  | .closeObject => [0x7D]
  | .openArray => [0x5B]
  | .closeArray => [0x5D]
  | .comma => [0x2C]
  | .colon => [0x3A]
  | .null => Utf8.encode "null"
  | .bool true => Utf8.encode "true"
  | .bool false => Utf8.encode "false"
  | .number text => text
  | .string body => body.write
  | .junk => []

end Token

end Beacon.Json
