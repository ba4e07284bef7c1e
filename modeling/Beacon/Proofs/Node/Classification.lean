import Beacon.Proofs.Node.Exchange
import Beacon.Proofs.Node.Sidecars

/-!
# What the end of an exchange means

What a node tells of a request is settled by the kind of its response. There is an answer only if
the request is served and three stages succeed one after the other: the encoding of the payload is
told, its fork is told where the request needs it, and the answer is read. `Request.Resolves` is the
outcome of the first two stages, and `Node.resolve_eq_ok_iff` says that the node goes through just
these. `Node.execute_classified` puts the kinds together, with what of a response matters to each.
-/

namespace Beacon

/-- The reply in the response to a served request: its encoding is told and, where the request needs
it, its fork. -/
inductive Request.Resolves (request : Request) (response : Http.Response) : Reply → Prop where
  | versioned {encoding : Encoding} {fork : Fork} (required : request.versioning = .required)
    (encoded : resolveEncoding response.headers = .ok encoding)
    (forked : resolveFork response.headers encoding response.body = .ok fork) :
    Resolves request response (.success encoding (some fork) response.body)
  | unversioned {encoding : Encoding} (ignored : request.versioning = .ignored)
    (encoded : resolveEncoding response.headers = .ok encoding) :
    Resolves request response (.success encoding none response.body)

namespace Request.Resolves

variable {request : Request} {response : Http.Response} {reply : Reply}

theorem isSuccess (resolves : request.Resolves response reply) : reply.isSuccess = true := by
  cases resolves <;> rfl

theorem payload_eq (resolves : request.Resolves response reply) :
    reply.payload = response.body := by
  cases resolves <;> rfl

theorem isSome_encoding? (resolves : request.Resolves response reply) :
    reply.encoding?.isSome = true := by
  cases resolves <;> rfl

theorem isSome_fork?_iff (resolves : request.Resolves response reply) :
    reply.fork?.isSome = true ↔ request.versioning = .required := by
  cases resolves with
  | versioned required encoded forked => exact ⟨fun _ => required, fun _ => rfl⟩
  | unversioned ignored encoded =>
    rw [ignored]
    exact ⟨nofun, nofun⟩

end Request.Resolves

namespace Node

variable {network : Http.Request → Http.Exchange} {endpoint : Endpoint} {request : Request}
  {sent : Http.Request} {response : Http.Response} {reply : Reply}

/-! ### Stages of a served request -/

theorem resolve_eq_ok_iff :
    ((Call.ofRequest request).resolve response).2 = .ok reply ↔
      request.Resolves response reply := by
  unfold Call.resolve
  rw [Call.versioning_ofRequest]
  constructor
  · intro h
    cases hencoding : resolveEncoding response.headers with
    | error e =>
      rw [hencoding] at h
      cases h
    | ok encoding =>
      rw [hencoding] at h
      cases hversioning : request.versioning with
      | ignored =>
        rw [hversioning] at h
        cases h
        exact .unversioned hversioning hencoding
      | required =>
        simp only [hversioning] at h
        cases hfork : resolveFork response.headers encoding response.body with
        | error e =>
          rw [hfork] at h
          cases h
        | ok fork =>
          rw [hfork] at h
          cases h
          exact .versioned hversioning hencoding hfork
  · intro resolves
    cases resolves with
    | versioned required encoded forked => simp only [required, encoded, forked]
    | unversioned ignored encoded => simp only [ignored, encoded]

/-- The first two stages fail in one way only. -/
theorem resolve_eq_error {failure : Failure}
    (h : ((Call.ofRequest request).resolve response).2 = .error failure) :
    ∃ reason, failure = .decode request.path reason := by
  unfold Call.resolve at h
  rw [Call.path_ofRequest] at h
  cases hencoding : resolveEncoding response.headers with
  | error e =>
    rw [hencoding] at h
    cases h
    exact ⟨_, rfl⟩
  | ok encoding =>
    rw [hencoding] at h
    cases hversioning : (Call.ofRequest request).versioning with
    | ignored =>
      rw [hversioning] at h
      cases h
    | required =>
      simp only [hversioning] at h
      cases hfork : resolveFork response.headers encoding response.body with
      | error e =>
        rw [hfork] at h
        cases h
        exact ⟨_, rfl⟩
      | ok fork =>
        rw [hfork] at h
        cases h

theorem readAnswer_eq_ok_iff (hreply : reply.isSuccess = true) {answer : request.Answer} :
    readAnswer request reply = .ok (some answer) ↔ request.decode reply = .ok answer := by
  rw [readAnswer, if_pos hreply]
  cases request.decode reply with
  | ok found => simp
  | error e => simp

/-- The last stage gives an answer or fails in the same way as the others. -/
theorem readAnswer_cases (hreply : reply.isSuccess = true) :
    (∃ answer, readAnswer request reply = .ok (some answer)) ∨
      ∃ reason, readAnswer request reply = .error (.decode request.path reason) := by
  rw [readAnswer, if_pos hreply]
  cases request.decode reply with
  | ok found => exact .inl ⟨found, rfl⟩
  | error e => exact .inr ⟨e.message, rfl⟩

/-- What is served is told, or it cannot be read. -/
theorem execute_cases (completes : Completes network endpoint request sent response)
    (served : response.IsServed) :
    (∃ answer, (execute network endpoint request).2 = .ok (some answer)) ∨
      ∃ reason, (execute network endpoint request).2 = .error (.decode request.path reason) := by
  rw [execute_of_isServed completes served]
  cases hresolve : ((Call.ofRequest request).resolve response).2 with
  | ok reply => exact readAnswer_cases (resolve_eq_ok_iff.1 hresolve).isSuccess
  | error failure =>
    obtain ⟨reason, rfl⟩ := resolve_eq_error hresolve
    exact .inr ⟨reason, rfl⟩

theorem execute_eq_some_iff (completes : Completes network endpoint request sent response)
    (served : response.IsServed) {answer : request.Answer} :
    (execute network endpoint request).2 = .ok (some answer) ↔
      ∃ reply, request.Resolves response reply ∧ request.decode reply = .ok answer := by
  rw [execute_of_isServed completes served]
  cases hresolve : ((Call.ofRequest request).resolve response).2 with
  | ok reply =>
    have resolves : request.Resolves response reply := resolve_eq_ok_iff.1 hresolve
    show readAnswer request reply = .ok (some answer) ↔ _
    rw [readAnswer_eq_ok_iff resolves.isSuccess]
    constructor
    · intro hdecode
      exact ⟨reply, resolves, hdecode⟩
    · rintro ⟨reply', resolves', hdecode⟩
      rw [resolve_eq_ok_iff.2 resolves'] at hresolve
      cases hresolve
      exact hdecode
  | error failure =>
    constructor
    · nofun
    · rintro ⟨reply, resolves, -⟩
      rw [resolve_eq_ok_iff.2 resolves] at hresolve
      cases hresolve

/-! ### Kinds of results -/

/-- There are four kinds of results, and the response tells which one it is, but for whether what is
served can be read. -/
theorem execute_kinds (completes : Completes network endpoint request sent response) :
    response.IsNothing sent.method ∧ (execute network endpoint request).2 = .ok none ∨
    response.IsRefusal sent.method ∧ (execute network endpoint request).2 =
      .error (.refused sent.method.name request.path response.status response.body) ∨
    response.IsServed ∧ ((∃ answer, (execute network endpoint request).2 = .ok (some answer)) ∨
      ∃ reason, (execute network endpoint request).2 = .error (.decode request.path reason)) := by
  rcases response.kind_cases sent.method with nothing | refusal | served
  · exact .inl ⟨nothing, execute_of_isNothing completes nothing⟩
  · exact .inr (.inl ⟨refusal, execute_of_isRefusal completes refusal⟩)
  · exact .inr (.inr ⟨served, execute_cases completes served⟩)

theorem execute_eq_none_iff (completes : Completes network endpoint request sent response) :
    (execute network endpoint request).2 = .ok none ↔ response.IsNothing sent.method := by
  constructor
  · intro h
    rcases execute_kinds completes with
      ⟨nothing, -⟩ | ⟨-, hresult⟩ | ⟨-, ⟨answer, hresult⟩ | ⟨reason, hresult⟩⟩
    · exact nothing
    all_goals
      rw [hresult] at h
      cases h
  · exact execute_of_isNothing completes

theorem execute_eq_refused_iff (completes : Completes network endpoint request sent response)
    {method path : String} {status : Nat} {body : Bytes} :
    (execute network endpoint request).2 = .error (.refused method path status body) ↔
      response.IsRefusal sent.method ∧ method = sent.method.name ∧ path = request.path ∧
        status = response.status ∧ body = response.body := by
  constructor
  · intro h
    rcases execute_kinds completes with
      ⟨-, hresult⟩ | ⟨refusal, hresult⟩ | ⟨-, ⟨answer, hresult⟩ | ⟨reason, hresult⟩⟩
    all_goals
      rw [hresult] at h
      cases h
    exact ⟨refusal, rfl, rfl, rfl, rfl⟩
  · rintro ⟨refusal, rfl, rfl, rfl, rfl⟩
    exact execute_of_isRefusal completes refusal

theorem isServed_iff (completes : Completes network endpoint request sent response) :
    response.IsServed ↔
      (∃ answer, (execute network endpoint request).2 = .ok (some answer)) ∨
        ∃ reason, (execute network endpoint request).2 = .error (.decode request.path reason) := by
  constructor
  · exact execute_cases completes
  · intro h
    rcases execute_kinds completes with ⟨-, hresult⟩ | ⟨-, hresult⟩ | ⟨served, -⟩
    · rw [hresult] at h
      rcases h with ⟨answer, h⟩ | ⟨reason, h⟩ <;> cases h
    · rw [hresult] at h
      rcases h with ⟨answer, h⟩ | ⟨reason, h⟩ <;> cases h
    · exact served

/-- Of a response that is not served, the status matters alone, and the body if it is refused. -/
theorem execute_congr {network' : Http.Request → Http.Exchange} {response' : Http.Response}
    (completes : Completes network endpoint request sent response)
    (completes' : Completes network' endpoint request sent response')
    (status_eq : response'.status = response.status) (unserved : ¬ response.IsServed)
    (body_eq : response.IsRefusal sent.method → response'.body = response.body) :
    (execute network' endpoint request).2 = (execute network endpoint request).2 := by
  rcases response.kind_cases sent.method with nothing | refusal | served
  · have nothing' := (Http.Response.isNothing_congr status_eq).2 nothing
    rw [execute_of_isNothing completes nothing, execute_of_isNothing completes' nothing']
  · have refusal' := (Http.Response.isRefusal_congr status_eq).2 refusal
    rw [execute_of_isRefusal completes refusal, execute_of_isRefusal completes' refusal', status_eq,
      body_eq refusal]
  · exact absurd served unserved

/-- **Meaning of an exchange.** The status of a response decides between three kinds of results:
nothing, a refusal with the method, the path, the status and the body, or what was served. What was
served is an answer or it cannot be read, and it is an answer just if encoding, fork and answer are
read one after the other, from the body as it came. Of a response that was not served nothing but
the status matters, and the body to a refusal. -/
theorem execute_classified (completes : Completes network endpoint request sent response) :
    ((execute network endpoint request).2 = .ok none ↔ response.IsNothing sent.method) ∧
    (∀ method path status body,
      (execute network endpoint request).2 = .error (.refused method path status body) ↔
        response.IsRefusal sent.method ∧ method = sent.method.name ∧ path = request.path ∧
          status = response.status ∧ body = response.body) ∧
    (response.IsServed ↔
      (∃ answer, (execute network endpoint request).2 = .ok (some answer)) ∨
        ∃ reason, (execute network endpoint request).2 = .error (.decode request.path reason)) ∧
    (∀ answer, (execute network endpoint request).2 = .ok (some answer) ↔
      response.IsServed ∧
        ∃ reply, request.Resolves response reply ∧ request.decode reply = .ok answer) ∧
    (∀ reply, request.Resolves response reply →
      reply.payload = response.body ∧ reply.encoding?.isSome = true ∧
        (reply.fork?.isSome = true ↔ request.versioning = .required)) ∧
    ∀ network' response', Completes network' endpoint request sent response' →
      response'.status = response.status → ¬ response.IsServed →
      (response.IsRefusal sent.method → response'.body = response.body) →
      (execute network' endpoint request).2 = (execute network endpoint request).2 := by
  refine ⟨execute_eq_none_iff completes, fun _ _ _ _ => execute_eq_refused_iff completes,
    isServed_iff completes, fun answer => ?_, fun reply resolves => ?_,
    fun _ _ completes' => execute_congr completes completes'⟩
  · constructor
    · intro h
      have served : response.IsServed := (isServed_iff completes).2 (.inl ⟨answer, h⟩)
      exact ⟨served, (execute_eq_some_iff completes served).1 h⟩
    · rintro ⟨served, hreply⟩
      exact (execute_eq_some_iff completes served).2 hreply
  · exact ⟨resolves.payload_eq, resolves.isSome_encoding?, resolves.isSome_fork?_iff⟩

theorem exists_completes (endpoint : Endpoint) (request : Request) (response : Http.Response)
    (trusted : endpoint.capabilities.contains request.capability = true)
    (sends : ((Call.ofRequest request).send? endpoint).isSome = true) :
    ∃ sent, sent.method = (Call.ofRequest request).method ∧
      Completes (fun _ => .answered response) endpoint request sent response := by
  obtain ⟨sent, hsend⟩ := Option.isSome_iff_exists.1 sends
  exact ⟨sent, Call.method_of_send? hsend, trusted, hsend, rfl⟩

/-- A node of the host itself that knows of no block, one that knows of no validators, and one that
serves a sidecar. -/
theorem execute_classified_loopback :
    (execute (fun _ => .answered ⟨404, [], []⟩) (.loopback 5052) (.blockRoot "head")).2 =
      .ok none ∧
    (execute (fun _ => .answered ⟨404, [], [0]⟩) (.loopback 5052) (.validatorLiveness 7 [])).2 =
      .error (.refused "POST" "/eth/v1/validator/liveness/7" 404 [0]) ∧
    (execute (fun _ => .answered (sszResponse .deneb [.blank 0])) (.loopback 5052)
        (.blobSidecars "head" [])).2 =
      .ok (some { fork := .deneb, sidecars := [.blank 0] : VersionedSidecars }) := by
  refine ⟨?_, ?_, ?_⟩
  · obtain ⟨sent, hmethod, completes⟩ := exists_completes (.loopback 5052) (.blockRoot "head")
      ⟨404, [], []⟩ rfl (by decide +kernel)
    exact (execute_classified completes).1.2 (.inr ⟨rfl, hmethod⟩)
  · obtain ⟨sent, hmethod, completes⟩ := exists_completes (.loopback 5052) (.validatorLiveness 7 [])
      ⟨404, [], [0]⟩ rfl (by decide +kernel)
    have hpost : sent.method = .post := hmethod
    refine ((execute_classified completes).2.1 _ _ _ _).2 ⟨⟨rfl, ?_⟩, ?_, by decide, rfl, rfl⟩
    · rw [hpost]
      nofun
    · rw [hpost]
      rfl
  · obtain ⟨sent, -, completes⟩ := exists_completes (.loopback 5052) (.blobSidecars "head" [])
      (sszResponse .deneb [.blank 0]) rfl (by decide +kernel)
    have hread : (Request.blobSidecars "head" []).decode
        (.success .ssz (some .deneb) (BlobSidecar.listToSsz [.blank 0])) =
          .ok { fork := .deneb, sidecars := [.blank 0] } := by
      refine (Request.readSidecars_of_isSupported rfl rfl).trans ?_
      rw [Request.readPayload]
      show (BlobSidecar.listOfSsz (BlobSidecar.listToSsz [.blank 0])).map _ = _
      rw [BlobSidecar.listOfSsz_listToSsz]
      rfl
    refine ((execute_classified completes).2.2.2.1 _).2
      ⟨⟨rfl, by decide⟩, _, .versioned rfl ?_ ?_, hread⟩
    · exact resolveEncoding_of_isSsz ⟨_, rfl, Encoding.isNamedBy_mediaType .ssz⟩
    · exact resolveFork_of_isInHeaders ⟨_, rfl, Fork.isNamedBy_tag .deneb⟩ _ _

end Node

end Beacon
