import Beacon.Http.Message
import Beacon.Url.Basic

/-!
# HTTP on a connection

How a request is written to a connection that is closed after it, and how the response is read from
all that comes back. The body of a response ends where its chunks or its length say, or else with
the connection; a response that is cut short is none.
-/

namespace Beacon.Http

/-- The end of a line. -/
def lineEnd : Bytes := [13, 10]

namespace Wire

/-- A header on a line of its own. -/
def headerLine (name : String) (value : Bytes) : Bytes :=
  Utf8.encode name ++ [58, 32] ++ value ++ lineEnd

/-- A request to the host of its target, written to a connection that is closed after it. -/
def writeRequest (target : Url) (request : Request) : Bytes :=
  let query := match target.query with
    | some query => "?" ++ query
    | none => ""
  Utf8.encode (request.method.name ++ " " ++ target.pathText ++ query ++ " HTTP/1.1") ++ lineEnd ++
    headerLine "host" (Utf8.encode target.authority) ++
    request.headers.flatMap (fun header => headerLine header.1 header.2) ++
    (match request.method with
      | .get => []
      | .post => headerLine "content-length" (Utf8.encode (toString request.body.length))) ++
    headerLine "connection" (Utf8.encode "close") ++ lineEnd ++ request.body

/-- The first line and what follows it. -/
def splitLine (bytes : Bytes) : Option (Bytes × Bytes) :=
  let line := bytes.takeWhile (· ≠ 10)
  match bytes.drop line.length with
  | _ :: rest => some (if line.getLast? = some 13 then line.dropLast else line, rest)
  | [] => none

/-- The status in the first line of a response. -/
def readStatus (line : Bytes) : Option Nat :=
  match Utf8.decodeLossy (line.take 13) |>.toList with
  | 'H' :: 'T' :: 'T' :: 'P' :: '/' :: '1' :: '.' :: _ :: ' ' :: a :: b :: c :: rest => do
    let hundreds ← Numeral.digit? a
    let tens ← Numeral.digit? b
    let ones ← Numeral.digit? c
    if rest = [] ∨ rest = [' '] then some (hundreds * 100 + tens * 10 + ones) else none
  | _ => none

/-- A space or a tab. -/
def isGap (b : UInt8) : Bool := b = 32 || b = 9

/-- A byte string without spaces and tabs at its ends. -/
def trimGaps (bytes : Bytes) : Bytes := ((bytes.dropWhile isGap).reverse.dropWhile isGap).reverse

/-- The header on a line. -/
def readHeader (line : Bytes) : Option (String × Bytes) :=
  let name := line.takeWhile (· ≠ 58)
  match line.drop name.length with
  | _ :: value =>
    match parseName (Utf8.decodeLossy name) with
    | .ok name => some (name, trimGaps value)
    | .error _ => none
  | [] => none

/-- The headers up to the empty line, at most `count` of them, and what follows it. -/
def readHeaders (done : Headers) : (count : Nat) → Bytes → Option (Headers × Bytes)
  | 0, _ => none
  | count + 1, bytes =>
    match splitLine bytes with
    | none => none
    | some ([], rest) => some (done.reverse, rest)
    | some (line, rest) =>
      match readHeader line with
      | none => none
      | some header => readHeaders (header :: done) count rest

/-- The greatest number of headers in a response. -/
def mostHeaders : Nat := 100

/-- The number written in hexadecimal at the start of a line. -/
def chunkSize? (line : Bytes) : Option Nat :=
  let digits := line.takeWhile fun b => (Url.hexValue? b).isSome
  let number := digits.foldl (fun n b => n * 16 + ((Url.hexValue? b).getD 0).toNat) 0
  if digits = [] ∨ 15 < digits.length then none else some number

/-- The chunks of a body, at most `count` of them, after those in `done`. -/
def readChunks (done : Bytes) : (count : Nat) → Bytes → Option Bytes
  | 0, _ => none
  | count + 1, bytes =>
    match splitLine bytes with
    | none => none
    | some (line, rest) =>
      match chunkSize? line with
      | none => none
      | some 0 => some done
      | some size =>
        let chunk := rest.take size
        if chunk.length < size then none
        else
          match splitLine (rest.drop size) with
          | some ([], rest) => readChunks (done ++ chunk) count rest
          | _ => none

/-- The body of a response, from its status, its headers and what follows them. -/
def readBody (status : Nat) (headers : Headers) (bytes : Bytes) : Option Bytes :=
  if status = 204 ∨ status = 304 then some []
  else
    match headers.values "transfer-encoding", headers.values "content-length" with
    | [], [] => some bytes
    | [], length :: _ =>
      match Numeral.read (Utf8.decodeLossy length) with
      | .ok n => if bytes.length < n.toNat then none else some (bytes.take n.toNat)
      | .error _ => none
    | _, _ => readChunks [] bytes.length bytes

/-- The response in all that came back, past at most `count` preliminary ones. -/
def readResponse : (count : Nat) → Bytes → Option Response
  | 0, _ => none
  | count + 1, bytes => do
    let (line, rest) ← splitLine bytes
    let status ← readStatus line
    let (headers, rest) ← readHeaders [] (mostHeaders + 1) rest
    if 100 ≤ status ∧ status < 200 then readResponse count rest
    else
      let body ← readBody status headers rest
      some { status, headers, body }

/-- How an exchange ends after which all of `bytes` came back. -/
def conclude (bytes : Bytes) : Exchange :=
  match readResponse 8 bytes with
  | some response => .answered response
  | none => .broken "invalid response"

end Wire

end Beacon.Http
