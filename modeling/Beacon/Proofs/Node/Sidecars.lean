import Beacon.Pool.OfNodes
import Beacon.Proofs.Chain.Sidecars
import Beacon.Proofs.Node.Exchange
import Beacon.Proofs.Node.Resolution
import Beacon.Proofs.Pool.Majority

/-!
# Sidecars from nodes

A node may serve sidecars as serialized bytes or as JSON, and tell their fork in a header or, in
JSON, in the payload. `Serves` says what a response has to be to serve some sidecars, by its headers
and by the text of its body, and `Answers` that a node answers a request with a response. Whatever
way a node takes, it is understood in the same way: `Node.sidecars_transparent`. So a majority of
nodes that serve the same sidecars is one, whichever encodings they use.
-/

namespace Beacon

/-! ### Headers -/

/-- The value of a header names an encoding. -/
def Encoding.IsNamedBy (encoding : Encoding) (value : Bytes) : Prop :=
  (Http.valueText? value).bind ofMediaType? = some encoding

/-- The value of a header names a fork. -/
def Fork.IsNamedBy (fork : Fork) (value : Bytes) : Prop :=
  ∃ tag, Http.valueText? value = some tag ∧ ofTag tag = .ok fork

theorem Encoding.isNamedBy_mediaType (encoding : Encoding) :
    encoding.IsNamedBy (Utf8.encode encoding.mediaType) := by
  cases encoding <;> rfl

theorem Fork.isNamedBy_tag (fork : Fork) : fork.IsNamedBy (Utf8.encode fork.tag) :=
  ⟨fork.tag, by cases fork <;> rfl, ofTag_tag fork⟩

/-- The encoding of a payload is told to be that of serialized bytes. -/
def Encoding.IsSsz (headers : Http.Headers) : Prop :=
  ∃ value, headers.values "content-type" = [value] ∧ ssz.IsNamedBy value

/-- The encoding of a payload is told to be JSON, or nothing known is told of it. -/
def Encoding.IsJson (headers : Http.Headers) : Prop :=
  headers.values "content-type" = [] ∨
    ∃ value, headers.values "content-type" = [value] ∧ ¬ ssz.IsNamedBy value

/-- The fork of a payload is told by the only header for that. -/
def Fork.IsInHeaders (fork : Fork) (headers : Http.Headers) : Prop :=
  ∃ value, headers.values "eth-consensus-version" = [value] ∧ fork.IsNamedBy value

section

variable {headers : Http.Headers} {fork : Fork}

theorem resolveEncoding_of_isSsz (h : Encoding.IsSsz headers) :
    resolveEncoding headers = .ok .ssz := by
  obtain ⟨value, hvalues, hname⟩ := h
  obtain ⟨text, htext, hmedia⟩ := Option.bind_eq_some_iff.1 hname
  exact resolveEncoding_eq_ssz_iff.2
    ⟨text, ⟨value, hvalues, htext⟩, Encoding.ofMediaType?_eq_some_iff.1 hmedia⟩

theorem resolveEncoding_of_isJson (h : Encoding.IsJson headers) :
    resolveEncoding headers = .ok .json := by
  rw [resolveEncoding_eq_json_iff]
  obtain hvalues | ⟨value, hvalues, hname⟩ := h
  · simp [Http.Headers.Tells, hvalues]
  · refine ⟨by simp [hvalues], ?_⟩
    rintro ⟨text, ⟨value', hvalues', htext⟩, hspelled⟩
    rw [hvalues] at hvalues'
    cases hvalues'
    exact hname (Option.bind_eq_some_iff.2
      ⟨text, htext, Encoding.ofMediaType?_eq_some_iff.2 hspelled⟩)

theorem resolveFork_of_isInHeaders (h : fork.IsInHeaders headers) (encoding : Encoding)
    (payload : Bytes) : resolveFork headers encoding payload = .ok fork := by
  obtain ⟨value, hvalues, tag, htext, hfork⟩ := h
  have told : headers.values "eth-consensus-version" ≠ [] := by simp [hvalues]
  exact (resolveFork_eq_ok_iff told).2
    ⟨tag, ⟨value, hvalues, htext⟩, Fork.ofTag_eq_ok_iff.1 hfork⟩

end

/-! ### Payloads -/

section

open Json

variable {members : List (StringBody × Node)} {payload : Bytes}

/-- The fork that a JSON payload tells is read from its member `version`. -/
theorem payloadFork_of_isObject (object : IsObject members payload) {body : StringBody}
    (h : named members "version" = [.string body]) {tag : String}
    (htag : body.toString? = some tag) {fork : Fork} (hfork : Fork.ofTag tag = .ok fork) :
    payloadFork payload = .ok fork := by
  exact payloadFork_eq_ok_iff.2 (.object object.isJson object.readable h
    ⟨tag, htag, Fork.ofTag_eq_ok_iff.1 hfork⟩)

/-- Sidecars are read from the member `data` of a JSON payload. -/
theorem readData_of_isObject (object : IsObject members payload) {node : Node}
    (h : named members "data" = [node]) {sidecars : List BlobSidecar}
    (shows : ((Codec.list BlobSidecar.codec).write sidecars).Shows node) :
    Request.readData "BlobSidecars" (.list BlobSidecar.codec) payload = .ok sidecars := by
  have hread : (Codec.list BlobSidecar.codec).read node = .ok sidecars :=
    Codec.isFaithful_list BlobSidecar.isLossless_codec.faithful sidecars node shows
  have hdecode : (Codec.list BlobSidecar.codec).data.decode payload = .ok sidecars :=
    Codec.decode_single object h hread
  rw [Request.readData, hdecode]

end

/-! ### Responses -/

/-- A response serves some sidecars of a fork, in either encoding. -/
inductive Serves (fork : Fork) (sidecars : List BlobSidecar) (response : Http.Response) : Prop where
  /-- As serialized bytes, with the fork in a header. -/
  | ssz (encoded : Encoding.IsSsz response.headers) (versioned : fork.IsInHeaders response.headers)
    (body_eq : response.body = BlobSidecar.listToSsz sidecars)
  /-- As JSON, with the sidecars in the member `data` of an object, and with the fork in a header or
  else in the member `version`. -/
  | json {members : List (Json.StringBody × Json.Node)} {node : Json.Node}
    (encoded : Encoding.IsJson response.headers) (object : Json.IsObject members response.body)
    (data : Json.named members "data" = [node])
    (shows : ((Json.Codec.list BlobSidecar.codec).write sidecars).Shows node)
    (versioned : fork.IsInHeaders response.headers ∨
      response.headers.values "eth-consensus-version" = [] ∧ ∃ body tag,
        Json.named members "version" = [.string body] ∧ body.toString? = some tag ∧
          Fork.ofTag tag = .ok fork)

/-- Sidecars as serialized bytes. -/
def sszResponse (fork : Fork) (sidecars : List BlobSidecar) : Http.Response where
  status := 200
  headers := [("content-type", Utf8.encode Encoding.ssz.mediaType),
    ("eth-consensus-version", Utf8.encode fork.tag)]
  body := BlobSidecar.listToSsz sidecars

/-- The members of an object with sidecars and their fork. -/
def jsonMembers (fork : Fork) (sidecars : List BlobSidecar) :
    List (Json.StringBody × Json.Node) :=
  [(.ofString "version", .string (.ofString fork.tag)),
    (.ofString "data", (Json.Codec.list BlobSidecar.codec).write sidecars)]

/-- Sidecars as JSON, without a header for the fork. -/
def jsonResponse (fork : Fork) (sidecars : List BlobSidecar) : Http.Response where
  status := 200
  headers := [("content-type", Utf8.encode Encoding.json.mediaType)]
  body := (Json.Node.object (jsonMembers fork sidecars) true).write

theorem serves_sszResponse (fork : Fork) (sidecars : List BlobSidecar) :
    Serves fork sidecars (sszResponse fork sidecars) :=
  .ssz ⟨_, rfl, Encoding.isNamedBy_mediaType .ssz⟩ ⟨_, rfl, fork.isNamedBy_tag⟩ rfl

theorem serves_jsonResponse (fork : Fork) (sidecars : List BlobSidecar) :
    Serves fork sidecars (jsonResponse fork sidecars) := by
  have hdata : ((Json.Codec.list BlobSidecar.codec).write sidecars).IsWritable :=
    Json.Codec.isWritable_list BlobSidecar.isLossless_codec.writable sidecars
  have hobject : Json.IsObject (jsonMembers fork sidecars) (jsonResponse fork sidecars).body := by
    refine Json.isObject_write (Json.Node.isWritable_object ?_) ?_
    · simp only [jsonMembers, List.forall_mem_cons]
      exact ⟨⟨rfl, Json.Node.isWritable_ofString fork.tag⟩, ⟨rfl, hdata⟩, List.forall_mem_nil _⟩
    · simp [jsonMembers, Json.StringBody.toString?_ofString]
  have hnamed : Json.named (jsonMembers fork sidecars) "data" =
      [(Json.Codec.list BlobSidecar.codec).write sidecars] := by
    simp [jsonMembers, Json.named, Json.StringBody.toString?_ofString]
  have hversion : Json.named (jsonMembers fork sidecars) "version" =
      [.string (.ofString fork.tag)] := by
    simp [jsonMembers, Json.named, Json.StringBody.toString?_ofString]
  have hencoding : ¬ Encoding.ssz.IsNamedBy (Utf8.encode Encoding.json.mediaType) := fun h =>
    Encoding.noConfusion (Option.some.inj (h.symm.trans (Encoding.isNamedBy_mediaType .json)))
  exact .json (.inr ⟨_, rfl, hencoding⟩) hobject hnamed (Json.Node.shows_self _ hdata.complete)
    (.inr ⟨rfl, _, fork.tag, hversion, Json.StringBody.toString?_ofString _, Fork.ofTag_tag fork⟩)

/-- A response tells a fork in its only header for that or, if it has none, in its payload. -/
def Fork.IsToldBy (fork : Fork) (response : Http.Response) : Prop :=
  fork.IsInHeaders response.headers ∨
    response.headers.values "eth-consensus-version" = [] ∧ payloadFork response.body = .ok fork

namespace Node

variable {network : Http.Request → Http.Exchange} {endpoint : Endpoint} {request : Request}
  {response : Http.Response} {fork : Fork} {sidecars : List BlobSidecar}

/-- A node that is trusted with a request answers it with a response that has a payload. -/
structure Answers (network : Http.Request → Http.Exchange) (endpoint : Endpoint) (request : Request)
    (response : Http.Response) : Prop where
  trusted : endpoint.capabilities.contains request.capability = true
  /-- What is sent brings the response. -/
  answered : ∃ sent, (Call.ofRequest request).send? endpoint = some sent ∧
    network sent = .answered response
  success : response.isSuccess = true
  /-- There is something to tell. -/
  status_ne : response.status ≠ 204

/-- What a response means is told by its encoding, its fork and its payload. -/
theorem Answers.execute_eq (h : Answers network endpoint request response)
    (versioned : request.versioning = .required) :
    (execute network endpoint request).2 =
      match resolveEncoding response.headers with
      | .error e => .error (.decode request.path e.message)
      | .ok encoding =>
        match resolveFork response.headers encoding response.body with
        | .error e => .error (.decode request.path e.message)
        | .ok fork => readAnswer request (.success encoding (some fork) response.body) := by
  obtain ⟨sent, hsend, hsent⟩ := h.answered
  have completes : Completes network endpoint request sent response := ⟨h.trusted, hsend, hsent⟩
  rw [execute_of_isServed completes ⟨h.success, h.status_ne⟩, Call.resolve,
    Call.versioning_ofRequest, Call.path_ofRequest, versioned]
  cases resolveEncoding response.headers with
  | error e => rfl
  | ok encoding =>
    simp only
    cases resolveFork response.headers encoding response.body <;> rfl

/-- The sidecars of a response are read whatever their encoding. -/
theorem execute_of_serves {block : String} {indices : List UInt64}
    (h : Answers network endpoint (.blobSidecars block indices) response)
    (supported : BlobSidecar.isSupported fork = true) (serves : Serves fork sidecars response) :
    (execute network endpoint (.blobSidecars block indices)).2 =
      .ok (some { fork, sidecars : VersionedSidecars }) := by
  have hread {encoding : Encoding}
      (hpayload : Request.readPayload (.success encoding (some fork) response.body) =
        .ok sidecars) :
      readAnswer (.blobSidecars block indices) (.success encoding (some fork) response.body) =
        .ok (some { fork, sidecars : VersionedSidecars }) := by
    have hfork : (Reply.success encoding (some fork) response.body).fork? = some fork := rfl
    have hdecode := Request.readSidecars_of_isSupported hfork supported
    rw [hpayload] at hdecode
    simp only [readAnswer, Reply.isSuccess, if_true, Request.decode, hdecode]
    rfl
  rw [h.execute_eq rfl]
  cases serves with
  | ssz encoded versioned body_eq =>
    rw [resolveEncoding_of_isSsz encoded]
    simp only [resolveFork_of_isInHeaders versioned]
    refine hread ?_
    rw [body_eq]
    exact BlobSidecar.listOfSsz_listToSsz sidecars
  | json encoded object data shows versioned =>
    have hfork : resolveFork response.headers .json response.body = .ok fork := by
      obtain versioned | ⟨unnamed, body, tag, hversion, htag, hfork⟩ := versioned
      · exact resolveFork_of_isInHeaders versioned _ _
      · rw [resolveFork_of_notInHeaders unnamed]
        exact payloadFork_of_isObject object hversion htag hfork
    rw [resolveEncoding_of_isJson encoded]
    simp only [hfork]
    exact hread (readData_of_isObject object data shows)

/-- Sidecars of forks without the layout are never read. -/
theorem execute_of_isToldBy {block : String} {indices : List UInt64}
    (h : Answers network endpoint (.blobSidecars block indices) response)
    (unsupported : BlobSidecar.isSupported fork = false) (told : fork.IsToldBy response) :
    ∃ reason, (execute network endpoint (.blobSidecars block indices)).2 =
      .error (.decode (Request.blobSidecars block indices).path reason) := by
  have hread (encoding : Encoding) :
      ∃ reason,
        readAnswer (.blobSidecars block indices) (.success encoding (some fork) response.body) =
          .error (.decode (Request.blobSidecars block indices).path reason) := by
    have hfork : (Reply.success encoding (some fork) response.body).fork? = some fork := rfl
    have hdecode := Request.readSidecars_of_not_isSupported hfork unsupported
    simp only [readAnswer, Reply.isSuccess, if_true, Request.decode, hdecode]
    exact ⟨_, rfl⟩
  rw [h.execute_eq rfl]
  cases resolveEncoding response.headers with
  | error e => exact ⟨_, rfl⟩
  | ok encoding =>
    obtain versioned | ⟨unnamed, hfork⟩ := told
    · simp only [resolveFork_of_isInHeaders versioned]
      exact hread encoding
    · -- the fork of serialized bytes is not looked for in the payload
      cases encoding with
      | ssz =>
        simp only [resolveFork_of_notInHeaders unnamed]
        exact ⟨_, rfl⟩
      | json =>
        simp only [resolveFork_of_notInHeaders unnamed, hfork]
        exact hread .json

end Node

/-! ### Calls to several nodes -/

namespace Node

/-- What a network does for a node in one call, when the node was asked so often before. -/
def exchange (network : Network) (endpoint : Endpoint) (before : Nat) (sent : Http.Request) :
    Http.Exchange :=
  ((network before sent).within endpoint.timeout).2

/-- A node on a network ends with what the call to it comes to. -/
theorem exists_finish_course (network : Network) (endpoint : Endpoint) (request : Request)
    (earlier : Log) (place : List Nat) (start : Moment) :
    ∃ moment,
      (Provider.course earlier request (.single (responder network endpoint)) place start).finish =
        some (moment, .result
          (execute (exchange network endpoint (earlier.starts place)) endpoint request).2) := by
  unfold Provider.course
  split
  · exact ⟨_, rfl⟩
  · next h =>
    have hrefused :
        execute (exchange network endpoint (earlier.starts place)) endpoint request =
          (none, .error (.unsupported request.capability)) := if_neg h
    rw [hrefused]
    exact ⟨start, rfl⟩

end Node

namespace Dispatch

variable {d : Dispatch VersionedSidecars} {block : String} {indices : List UInt64} {fork : Fork}
  {sidecars : List BlobSidecar}

/-- A member of a call is a node that serves some sidecars of a fork, in time. -/
structure IsServed (d : Dispatch VersionedSidecars) (block : String) (indices : List UInt64)
    (fork : Fork) (sidecars : List BlobSidecar) (member : Fin d.size) : Prop where
  /-- The task of the member ends by the deadline. -/
  inTime : (d.deeds member).isSome = true
  /-- The member is a node that serves the sidecars. -/
  node : ∃ network endpoint earlier place start,
    (d.team.get member).course =
        Provider.course earlier (.blobSidecars block indices)
          (.single (Node.responder network endpoint)) place start ∧
      ∃ response,
        Node.Answers (Node.exchange network endpoint (earlier.starts place)) endpoint
            (.blobSidecars block indices) response ∧
          Serves fork sidecars response

/-- What such a member reports are the sidecars, whatever their encoding. -/
theorem IsServed.outcome?_eq {member : Fin d.size}
    (h : d.IsServed block indices fork sidecars member)
    (supported : BlobSidecar.isSupported fork = true) :
    d.deeds.outcome? member = some (.success { fork, sidecars }) := by
  obtain ⟨network, endpoint, earlier, place, start, hcourse, response, answers, serves⟩ := h.node
  obtain ⟨moment, hfinish⟩ := Node.exists_finish_course network endpoint
    (.blobSidecars block indices) earlier place start
  rw [Node.execute_of_serves answers supported serves, ← hcourse] at hfinish
  obtain ⟨ending, hdeed⟩ := Option.isSome_iff_exists.1 h.inTime
  obtain ⟨finish, hfilter, hending⟩ := Option.map_eq_some_iff.1 hdeed
  rw [Option.filter_eq_some_iff, hfinish] at hfilter
  cases hfilter.1
  rw [Deeds.outcome?, hdeed, ← hending]
  rfl

/-- Members that serve the same sidecars have their votes for the same value. -/
theorem length_le_votes (supported : BlobSidecar.isSupported fork = true)
    {servers : List (Fin d.size)} (nodup : servers.Nodup)
    (served : ∀ member ∈ servers, d.IsServed block indices fork sidecars member) :
    servers.length ≤ d.deeds.votes { fork, sidecars } :=
  Deeds.length_le_count nodup fun member hm => by
    rw [(served member hm).outcome?_eq supported]
    exact BEq.refl _

end Dispatch

/-- **Encodings of sidecars.** A node that serves sidecars of a supported fork is understood to
give just these, whatever encoding it serves them in and however it tells their fork. Sidecars of
other forks are refused whatever is served, and sidecars that were read are never refused for their
fork. So nodes that serve the same sidecars agree, and a majority of them decides a call. -/
theorem Node.sidecars_transparent (block : String) (indices : List UInt64) :
    (∀ network endpoint response,
        Answers network endpoint (.blobSidecars block indices) response → ∀ fork,
          (BlobSidecar.isSupported fork = true → ∀ sidecars, Serves fork sidecars response →
            (execute network endpoint (.blobSidecars block indices)).2 =
              .ok (some { fork, sidecars : VersionedSidecars })) ∧
          (BlobSidecar.isSupported fork = false → fork.IsToldBy response →
            ∃ reason, (execute network endpoint (.blobSidecars block indices)).2 =
              .error (.decode (Request.blobSidecars block indices).path reason))) ∧
      (∀ reply fork sidecars e, VersionedSidecars.ofSidecars fork sidecars = .error e →
        (Request.blobSidecars block indices).decode reply ≠ .error e) ∧
      ∀ (d : Dispatch VersionedSidecars) (fork : Fork) (sidecars : List BlobSidecar)
        (servers : List (Fin d.size)),
        BlobSidecar.isSupported fork = true → servers.Nodup →
        (∀ member ∈ servers, d.IsServed block indices fork sidecars member) →
        servers.length ≤ d.deeds.votes { fork, sidecars } ∧
          (d.policy = .majority → d.size < 2 * servers.length →
            ∀ arrivals, arrivals.Perm d.arrivals →
              d.toOperation.answer arrivals = .ok (some { fork, sidecars })) := by
  refine ⟨fun network endpoint response answers fork => ⟨fun supported sidecars serves => ?_,
    fun unsupported told => ?_⟩, fun reply fork sidecars e hnew hdecode => ?_,
    fun d fork sidecars servers supported nodup served => ?_⟩
  · exact execute_of_serves answers supported serves
  · exact execute_of_isToldBy answers unsupported told
  · unfold VersionedSidecars.ofSidecars at hnew
    split at hnew
    · cases hnew
    · cases hnew
      exact Request.readSidecars_ne_error reply fork hdecode
  · have hvotes := Dispatch.length_le_votes supported nodup served
    refine ⟨hvotes, fun policy hmost arrivals order => ?_⟩
    obtain ⟨answer, hanswer, heq⟩ := d.toOperation.answer_of_votes
      (Policy.isMajority_of_eq policy) (order.trans d.arrivals_perm)
      (hmost.trans_le (Nat.mul_le_mul_left 2 hvotes))
    rw [hanswer, eq_of_beq heq]

/-- The endpoint at a port of the host itself, trusted with everything. -/
def Endpoint.loopback (port : Nat) : Endpoint where
  address := ⟨.http, "", "", .ipv6 [0, 0, 0, 0, 0, 0, 0, 1], some port, [""], none, none⟩

/-- The network that brings the same response to every request, after some milliseconds. -/
def Network.steady (delay : Nat) (response : Http.Response) : Network :=
  fun _ _ => ⟨some delay, .answered response⟩

theorem Node.answers_loopback {port : Nat} (hport : port = 5052 ∨ port = 5053) {delay : Nat}
    (hdelay : delay < 120000) {response : Http.Response} (hstatus : response.status = 200) :
    Answers (exchange (.steady delay response) (.loopback port) 0) (.loopback port)
      (.blobSidecars "head" []) response := by
  refine ⟨rfl, ?_, by simp [Http.Response.isSuccess, hstatus], by simp [hstatus]⟩
  have hsend :
      ((Call.ofRequest (.blobSidecars "head" [])).send? (.loopback port)).isSome = true := by
    rcases hport with rfl | rfl <;> decide +kernel
  have hlimit : (Endpoint.loopback port).timeout.milliseconds = 120000 :=
    show defaultTimeout.milliseconds = 120000 by decide
  obtain ⟨sent, hsent⟩ := Option.isSome_iff_exists.1 hsend
  exact ⟨sent, hsent, by simp [exchange, Network.steady, Delivery.within, hlimit, hdelay]⟩

/-- A pool of three nodes of the host itself. The first one serves a sidecar as serialized bytes and
the second one as JSON, and the third one is silent. -/
def Pool.trio : Pool where
  settings := { timeout := ⟨100000000⟩ }
  members :=
    [.single (Node.responder (.steady 3 (sszResponse .deneb [.blank 0])) (.loopback 5052)),
      .single (Node.responder (.steady 5 (jsonResponse .deneb [.blank 0])) (.loopback 5053)),
      .single (Node.responder (fun _ _ => ⟨none, .overdue⟩) (.loopback 5054))]

/-- A call of the three nodes for the sidecars of the latest block. -/
def Dispatch.trio : Dispatch VersionedSidecars :=
  Pool.trio.dispatch [] (.blobSidecars "head" []) .majority

/-- The two nodes that serve a sidecar decide the call. A node that serves it for the first fork is
not understood. -/
theorem Node.sidecars_transparent_trio :
    (execute (exchange (.steady 5 (jsonResponse .deneb [.blank 0])) (.loopback 5053) 0)
        (.loopback 5053) (.blobSidecars "head" [])).2 =
      .ok (some { fork := .deneb, sidecars := [.blank 0] : VersionedSidecars }) ∧
    (∃ reason, (execute (exchange (.steady 3 (sszResponse .phase0 [.blank 0])) (.loopback 5052) 0)
        (.loopback 5052) (.blobSidecars "head" [])).2 =
      .error (.decode "/eth/v1/beacon/blob_sidecars/head" reason)) ∧
    Dispatch.trio.toOperation.answer Dispatch.trio.arrivals =
      .ok (some { fork := .deneb, sidecars := [.blank 0] }) := by
  obtain ⟨hnode, -, hcall⟩ := sidecars_transparent "head" []
  have hssz (fork : Fork) :
      Answers (exchange (.steady 3 (sszResponse fork [.blank 0])) (.loopback 5052) 0)
        (.loopback 5052) (.blobSidecars "head" []) (sszResponse fork [.blank 0]) :=
    answers_loopback (.inl rfl) (by decide) rfl
  have hjson : Answers (exchange (.steady 5 (jsonResponse .deneb [.blank 0])) (.loopback 5053) 0)
      (.loopback 5053) (.blobSidecars "head" []) (jsonResponse .deneb [.blank 0]) :=
    answers_loopback (.inr rfl) (by decide) rfl
  refine ⟨(hnode _ _ _ hjson .deneb).1 rfl [.blank 0] (serves_jsonResponse _ _),
    (hnode _ _ _ (hssz .phase0) .phase0).2 rfl (.inl ⟨_, rfl, Fork.isNamedBy_tag _⟩), ?_⟩
  have hfirst : Dispatch.trio.IsServed "head" [] .deneb [.blank 0] ⟨0, by decide⟩ :=
    ⟨by decide +kernel, _, .loopback 5052, [], [0], (Moment.opening 0).step 0, rfl, _, hssz .deneb,
      serves_sszResponse _ _⟩
  have hsecond : Dispatch.trio.IsServed "head" [] .deneb [.blank 0] ⟨1, by decide⟩ :=
    ⟨by decide +kernel, _, .loopback 5053, [], [1], (Moment.opening 0).step 1, rfl, _, hjson,
      serves_jsonResponse _ _⟩
  exact (hcall Dispatch.trio .deneb [.blank 0] [⟨0, by decide⟩, ⟨1, by decide⟩] rfl (by decide)
    (by simp [hfirst, hsecond])).2 rfl (by decide) _ (.refl _)

end Beacon
