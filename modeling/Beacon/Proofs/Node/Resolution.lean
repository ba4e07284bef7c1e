import Beacon.Proofs.Json.Reading
import Beacon.Reply

/-!
# How the encoding and the fork of a payload are told

The encoding of a payload is told by one header, its fork by another one or, in JSON, by the payload
itself. A header tells something if it has one value and this is text (`Http.Headers.Tells`).
`resolveEncoding_eq_error_iff` and the two lemmas after it say when the encoding is told and when it
is taken for granted. `Fork.ofTag_eq_ok_iff` says what names a fork, and `payloadFork_eq_ok_iff`
which payloads tell one. `resolution` puts these together: a header for the fork hides the payload.
-/

namespace Beacon

open Json

/-! ### Headers -/

/-- A header has one value, which is text. -/
def Http.Headers.Tells (headers : Http.Headers) (name text : String) : Prop :=
  ∃ value, headers.values name = [value] ∧ Http.valueText? value = some text

namespace Encoding

/-- A media type without its parameters. -/
def essence (text : String) : String := String.ofList (text.toList.takeWhile (· ≠ ';'))

/-- A text spells the media type of an encoding, but for parameters, blanks and the case of
letters. -/
def IsSpelledBy (encoding : Encoding) (text : String) : Prop :=
  Text.lowercase (Text.trim (essence text)) = encoding.mediaType

theorem ofMediaType?_eq_some_iff {text : String} {encoding : Encoding} :
    ofMediaType? text = some encoding ↔ encoding.IsSpelledBy text := by
  have hname : Text.lowercase (Text.trim (essence text)) =
      Text.lowercase (String.ofList (Text.trimChars (text.toList.takeWhile (· ≠ ';')))) := by
    rw [Text.trim, essence, String.toList_ofList]
  rw [IsSpelledBy, hname, ofMediaType?]
  cases encoding <;> grind [mediaType]

end Encoding

section Encoding

variable {headers : Http.Headers}

/-- The encoding cannot be told if and only if it is told more than once. -/
theorem resolveEncoding_eq_error_iff {e : ResolveError} :
    resolveEncoding headers = .error e ↔
      2 ≤ (headers.values "content-type").length ∧ e = .repeatedEncoding := by
  unfold resolveEncoding
  split
  · next h => simp [h]
  · next h => simp [h]
  · next hnil hsingle =>
    have hlength : 2 ≤ (headers.values "content-type").length := by
      match h : headers.values "content-type" with
      | [] => exact absurd h hnil
      | [value] => exact absurd h (hsingle value)
      | _ :: _ :: _ => simp
    rw [and_iff_right hlength, Except.error.injEq, eq_comm]

/-- A payload is in serialized bytes if and only if a header names these. -/
theorem resolveEncoding_eq_ssz_iff :
    resolveEncoding headers = .ok .ssz ↔
      ∃ text, headers.Tells "content-type" text ∧ Encoding.ssz.IsSpelledBy text := by
  unfold resolveEncoding Http.Headers.Tells
  split
  · next h => simp [h]
  · next value h =>
    simp only [h, List.cons.injEq, and_true, exists_eq_left', Except.ok.injEq,
      ← Encoding.ofMediaType?_eq_some_iff]
    cases Http.valueText? value with
    | none => simp
    | some text => cases hname : Encoding.ofMediaType? text <;> simp [hname]
  · next hsingle =>
    constructor
    · nofun
    · rintro ⟨text, ⟨value, hvalues, -⟩, -⟩
      exact absurd hvalues (hsingle value)

/-- Every other payload is in JSON, if its encoding can be told. -/
theorem resolveEncoding_eq_json_iff :
    resolveEncoding headers = .ok .json ↔
      (headers.values "content-type").length < 2 ∧
        ¬ ∃ text, headers.Tells "content-type" text ∧ Encoding.ssz.IsSpelledBy text := by
  rw [← resolveEncoding_eq_ssz_iff, ← not_le]
  have herror : (∃ e, resolveEncoding headers = .error e) ↔
      2 ≤ (headers.values "content-type").length := by
    simp [resolveEncoding_eq_error_iff]
  rw [← herror]
  cases resolveEncoding headers with
  | error e => simp
  | ok encoding => cases encoding <;> simp

end Encoding

/-! ### Forks -/

namespace Fork

/-- A text spells the tag of a fork, but for blanks and the case of letters. -/
def IsSpelledBy (fork : Fork) (text : String) : Prop := Text.lowercase (Text.trim text) = fork.tag

theorem ofTag_eq_ok_iff {text : String} {fork : Fork} :
    ofTag text = .ok fork ↔ fork.IsSpelledBy text := by
  unfold IsSpelledBy
  constructor
  · intro h
    rw [ofTag] at h
    split at h
    · next found hfind =>
      cases h
      have htag := List.find?_some hfind
      rw [decide_eq_true_eq] at htag
      exact htag.symm
    · cases h
  · intro h
    rw [ofTag, h]
    cases fork <;> rfl

/-- The body of a string spells the tag of a fork. -/
def IsNamedIn (fork : Fork) (body : StringBody) : Prop :=
  ∃ text, body.toString? = some text ∧ fork.IsSpelledBy text

end Fork

theorem fork_read_eq_ok_iff {node : Json.Node} {fork : Fork} :
    Codec.fork.read node = .ok fork ↔ ∃ body, node = .string body ∧ fork.IsNamedIn body := by
  cases node with
  | string body =>
    simp only [Codec.fork, Codec.ofText, Codec.text, Json.Node.string.injEq, exists_eq_left',
      Fork.IsNamedIn, ← Fork.ofTag_eq_ok_iff]
    cases body.toString? with
    | none => simp
    | some text => cases hfork : Fork.ofTag text <;> simp [hfork]
  | null | bool | number | array | object | broken =>
    simp [Codec.fork, Codec.ofText, Codec.text]

theorem nullable_fork_read_eq_ok_iff {node : Json.Node} {fork : Fork} :
    (Codec.nullable Codec.fork).read node = .ok (some fork) ↔
      ∃ body, node = .string body ∧ fork.IsNamedIn body := by
  rw [← fork_read_eq_ok_iff]
  have hmap : (Codec.fork.read node).map some = .ok (some fork) ↔
      Codec.fork.read node = .ok fork := by
    cases Codec.fork.read node <;> simp [Except.map]
  rw [← hmap]
  cases node with
  | null => simp [Codec.nullable, Codec.fork, Codec.ofText, Codec.text, Except.map]
  | bool | number | string | array | object | broken => rfl

/-! ### Payloads -/

/-- A payload that tells its fork: one JSON text with nothing after it. -/
inductive IsForkPayload (fork : Fork) (payload : Bytes) : Prop where
  /-- An object with one member `version`, whose value names the fork. -/
  | object {members : List (StringBody × Json.Node)} {body : StringBody}
    (isJson : (Json.Node.object members true).IsJson payload)
    (readable : AreReadable members)
    (only : named members "version" = [.string body]) (names : fork.IsNamedIn body)
  /-- An array of one item, which names the fork. -/
  | array {body : StringBody} (isJson : (Json.Node.array [.string body] true).IsJson payload)
    (names : fork.IsNamedIn body)

theorem payloadFork_eq_ok_iff {payload : Bytes} {fork : Fork} :
    payloadFork payload = .ok fork ↔ IsForkPayload fork payload := by
  have hdecode : payloadFork payload = .ok fork ↔
      versionField.decode payload = .ok (some fork) := by
    unfold payloadFork
    split
    · next h => simp [h]
    · next h => simp [h]
    · next h => simp [h]
  rw [hdecode, versionField, Codec.iso_decode_eq_ok_iff (fun _ => rfl) (fun _ => rfl),
    Codec.decode_single_eq_ok_iff]
  constructor
  · rintro (⟨isJson, readable, ⟨node, only, hnode⟩ | ⟨-, habsent⟩⟩ | ⟨isJson, hnode⟩)
    · obtain ⟨body, rfl, names⟩ := nullable_fork_read_eq_ok_iff.1 hnode
      exact .object isJson readable only names
    · cases habsent
    · obtain ⟨body, rfl, names⟩ := nullable_fork_read_eq_ok_iff.1 hnode
      exact .array isJson names
  · rintro (⟨isJson, readable, only, names⟩ | ⟨isJson, names⟩)
    · exact .object isJson readable
        (.inl ⟨_, only, nullable_fork_read_eq_ok_iff.2 ⟨_, rfl, names⟩⟩)
    · exact .array isJson (nullable_fork_read_eq_ok_iff.2 ⟨_, rfl, names⟩)

/-! ### Both -/

variable {headers : Http.Headers}

theorem resolveFork_of_notInHeaders (h : headers.values "eth-consensus-version" = [])
    (encoding : Encoding) (payload : Bytes) :
    resolveFork headers encoding payload =
      match encoding with
      | .ssz => .error .noForkHeader
      | .json => payloadFork payload := by
  have hvalues : headers.values (Text.lowercase forkHeader) = [] := h
  cases encoding <;> simp only [resolveFork, hvalues]

/-- Where a header tells the fork, neither the encoding nor the payload matters. -/
theorem resolveFork_congr (h : headers.values "eth-consensus-version" ≠ [])
    (encoding encoding' : Encoding) (payload payload' : Bytes) :
    resolveFork headers encoding payload = resolveFork headers encoding' payload' := by
  have hname : Text.lowercase forkHeader = "eth-consensus-version" := rfl
  unfold resolveFork
  rw [hname]
  split
  · next hnil => exact absurd hnil h
  · rfl
  · rfl

theorem resolveFork_eq_ok_iff (h : headers.values "eth-consensus-version" ≠ [])
    {encoding : Encoding} {payload : Bytes} {fork : Fork} :
    resolveFork headers encoding payload = .ok fork ↔
      ∃ text, headers.Tells "eth-consensus-version" text ∧ fork.IsSpelledBy text := by
  have hname : Text.lowercase forkHeader = "eth-consensus-version" := rfl
  unfold resolveFork Http.Headers.Tells
  rw [hname]
  split
  · next hnil => exact absurd hnil h
  · next value hvalue =>
    simp only [hvalue, List.cons.injEq, and_true, exists_eq_left', ← Fork.ofTag_eq_ok_iff]
    cases Http.valueText? value with
    | none => simp
    | some text => cases htag : Fork.ofTag text <;> simp [Except.mapError, htag]
  · next hsingle =>
    constructor
    · nofun
    · rintro ⟨text, ⟨value, hvalues, -⟩, -⟩
      exact absurd hvalues (hsingle value)

/-- **The encoding and the fork of a payload.** The encoding cannot be told if and only if its
header has two values or more; it is that of serialized bytes if the header names these, and JSON
otherwise. A header for the fork settles it whatever the payload; without one, serialized bytes tell
no fork, and JSON tells the one that `IsForkPayload` says. -/
theorem resolution (headers : Http.Headers) :
    ((∃ e, resolveEncoding headers = .error e) ↔
      2 ≤ (headers.values "content-type").length) ∧
    (resolveEncoding headers = .ok .ssz ↔
      ∃ text, headers.Tells "content-type" text ∧ Encoding.ssz.IsSpelledBy text) ∧
    (resolveEncoding headers = .ok .json ↔
      (headers.values "content-type").length < 2 ∧
        ¬ ∃ text, headers.Tells "content-type" text ∧ Encoding.ssz.IsSpelledBy text) ∧
    (headers.values "eth-consensus-version" ≠ [] →
      (∀ encoding encoding' payload payload',
        resolveFork headers encoding payload = resolveFork headers encoding' payload') ∧
      ∀ encoding payload fork, resolveFork headers encoding payload = .ok fork ↔
        ∃ text, headers.Tells "eth-consensus-version" text ∧ fork.IsSpelledBy text) ∧
    (headers.values "eth-consensus-version" = [] →
      (∀ payload, ∃ e, resolveFork headers .ssz payload = .error e) ∧
      ∀ payload fork, resolveFork headers .json payload = .ok fork ↔
        IsForkPayload fork payload) := by
  refine ⟨?_, resolveEncoding_eq_ssz_iff, resolveEncoding_eq_json_iff, fun told => ?_,
    fun untold => ?_⟩
  · simp [resolveEncoding_eq_error_iff]
  · exact ⟨resolveFork_congr told, fun _ _ _ => resolveFork_eq_ok_iff told⟩
  · refine ⟨fun payload => ⟨_, resolveFork_of_notInHeaders untold .ssz payload⟩,
      fun payload fork => ?_⟩
    rw [resolveFork_of_notInHeaders untold]
    exact payloadFork_eq_ok_iff

/-- A payload whose member `version` has an escape in its name, after a member that is skipped. -/
def denebPayload : Bytes :=
  Utf8.encode "\x7b\"n\": [1.5, null], \"ver\\u0073ion\": \" Deneb\"\x7d"

/-- Without headers it tells its fork in JSON, and nothing else is told. -/
theorem resolution_deneb :
    resolveEncoding [] = .ok .json ∧ resolveFork [] .json denebPayload = .ok .deneb ∧
      IsForkPayload .deneb denebPayload ∧ ∃ e, resolveFork [] .ssz denebPayload = .error e := by
  obtain ⟨-, -, -, -, untold⟩ := resolution []
  have told : resolveFork [] .json denebPayload = .ok .deneb := by
    rfl
  obtain ⟨serialized, payload⟩ := untold rfl
  exact ⟨rfl, told, (payload denebPayload .deneb).1 told, serialized denebPayload⟩

end Beacon
