import Beacon.Failure
import Beacon.Http.Message
import Beacon.Json.Record

/-!
# Replies

A `Reply` is what a served request brings: a payload with its encoding and, where the request
needs it, the fork of the payload; or word that there is nothing. The encoding comes from the header
`Content-Type` and is JSON where that says nothing known. The fork comes from the header
`Eth-Consensus-Version` and, for JSON alone, from the member `version` of the payload.
-/

namespace Beacon

/-- The encoding of a payload. -/
inductive Encoding where
  | ssz
  | json
deriving DecidableEq, Repr

namespace Encoding

/-- The media type of an encoding. -/
def mediaType : Encoding → String
  | .ssz => "application/octet-stream"
  | .json => "application/json"

/-- The encoding that a media type names, whatever its parameters. -/
def ofMediaType? (value : String) : Option Encoding :=
  let essence := value.toList.takeWhile (· ≠ ';')
  let name := Text.lowercase (String.ofList (Text.trimChars essence))
  if name = ssz.mediaType then some .ssz
  else if name = json.mediaType then some .json
  else none

end Encoding

/-- Whether a request needs the fork of what it asks for. -/
inductive Versioning where
  | required
  | ignored
deriving DecidableEq, Repr

/-- What a served request brings. -/
inductive Reply where
  | success (encoding : Encoding) (fork : Option Fork) (payload : Bytes)
  | notFound
  | noContent
deriving DecidableEq

namespace Reply

/-- Whether there is a payload. -/
def isSuccess : Reply → Bool
  | .success .. => true
  | _ => false

/-- The encoding of the payload. -/
def encoding? : Reply → Option Encoding
  | .success encoding _ _ => some encoding
  | _ => none

/-- The fork of the payload. -/
def fork? : Reply → Option Fork
  | .success _ fork _ => fork
  | _ => none

/-- The payload; empty if there is none. -/
def payload : Reply → Bytes
  | .success _ _ payload => payload
  | _ => []

end Reply

/-- The name of the header that tells the fork of a payload. -/
def forkHeader : String := "Eth-Consensus-Version"

/-- Why the encoding or the fork of a payload cannot be told. -/
inductive ResolveError where
  | repeatedEncoding
  | repeatedFork
  | notText
  | unknownFork (source : Fork.Unknown)
  /-- No header tells the fork of serialized bytes. -/
  | noForkHeader
  /-- The payload cannot be searched for its fork. -/
  | badPayload (source : Json.Error)
  /-- Neither header nor payload tells the fork. -/
  | noFork
deriving DecidableEq

/-- The text of an error. -/
def ResolveError.message : ResolveError → String
  | .repeatedEncoding => "multiple Content-Type values in response"
  | .repeatedFork => s!"multiple {forkHeader} values in response"
  | .notText => "failed to convert header to a str"
  | .unknownFork source => source.message
  | .noForkHeader => s!"no {forkHeader} header for SSZ response"
  | .badPayload source => source.message
  | .noFork => s!"no {forkHeader} header nor version field in response"

/-- The encoding of a payload, from the headers of its response. -/
def resolveEncoding (headers : Http.Headers) : Except ResolveError Encoding :=
  match headers.values "content-type" with
  | [] => .ok .json
  | [value] => .ok (((Http.valueText? value).bind Encoding.ofMediaType?).getD .json)
  | _ => .error .repeatedEncoding

/-- The member `version` of a payload, as a record with that member alone. -/
def versionField : Json.Codec (Option Fork) :=
  (Json.Codec.record "VersionField" [
    { name := "version", Value := Option Fork, codec := .nullable .fork, absent := some none }]).iso
    (fun row => row.1) (fun fork => (fork, ()))

/-- The fork that a JSON payload tells. -/
def payloadFork (payload : Bytes) : Except ResolveError Fork :=
  match versionField.decode payload with
  | .error e => .error (.badPayload e)
  | .ok none => .error .noFork
  | .ok (some fork) => .ok fork

/-- The fork of a payload, from the headers of its response and from the payload. -/
def resolveFork (headers : Http.Headers) (encoding : Encoding) (payload : Bytes) :
    Except ResolveError Fork :=
  match headers.values (Text.lowercase forkHeader) with
  | [] =>
    match encoding with
    | .ssz => .error .noForkHeader
    | .json => payloadFork payload
  | [value] =>
    match Http.valueText? value with
    | none => .error .notText
    | some tag => (Fork.ofTag tag).mapError .unknownFork
  | _ => .error .repeatedFork

end Beacon
