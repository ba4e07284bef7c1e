import Beacon.Proofs.Node.Exchange
import Mathlib.Data.List.Nodup

/-!
# Headers of a request

An endpoint is asked for headers one after the other, and under each name the last one stays:
`lastGiven` is what this is, read off the calls alone, and `Endpoint.IsConfigured.values` says that
the endpoint has just that. `Node.values_headers_get` and `Node.values_headers_post` add what the
method sets. Names are in small letters and come once (`Http.Headers.IsMap`), and then headers are
told by their values but for their order (`Http.Headers.IsMap.perm`), so that the order of calls for
different names does not matter.
-/

namespace Beacon

/-! ### Headers as a map -/

namespace Http

theorem eq_lowercase_of_parseName {text name : String} (h : parseName text = .ok name) :
    name = Text.lowercase text := by
  unfold parseName at h
  split at h
  · exact (Except.ok.inj h).symm
  · cases h

theorem eq_encode_of_parseValue {text : String} {value : Bytes} (h : parseValue text = .ok value) :
    value = Utf8.encode text := by
  unfold parseValue at h
  split at h
  · exact (Except.ok.inj h).symm
  · cases h

/-- A name and a value that a header can have. -/
def IsHeader (name value : String) : Prop :=
  parseName name = .ok (Text.lowercase name) ∧ parseValue value = .ok (Utf8.encode value)

namespace Headers

variable {headers headers' : Headers} {name other : String} {value : Bytes}

theorem values_set :
    (headers.set name value).values other =
      if other = name then [value] else headers.values other := by
  split
  · next h => rw [h, values_set_self]
  · next h => exact values_set_of_ne headers value h

theorem mem_values : value ∈ headers.values name ↔ (name, value) ∈ headers := by
  simp [values]

theorem has_eq_false_iff : headers.has name = false ↔ headers.values name = [] := by
  simp [has, values, List.filter_eq_nil_iff]

theorem has_set_of_ne (h : other ≠ name) :
    (headers.set name value).has other = headers.has other := by
  rw [Bool.eq_iff_iff, ← not_iff_not, Bool.not_eq_true, Bool.not_eq_true, has_eq_false_iff,
    has_eq_false_iff, values_set_of_ne headers value h]

/-- Setting a value once more changes nothing, not even the order. -/
theorem set_set : (headers.set name value).set name value = headers.set name value := by
  simp [set, List.filter_filter]

theorem perm_set (h : headers.Perm headers') (name : String) (value : Bytes) :
    (headers.set name value).Perm (headers'.set name value) :=
  (h.filter _).append_right _

theorem has_congr (h : headers.Perm headers') : headers.has name = headers'.has name := by
  rw [Bool.eq_iff_iff]
  simp only [has, List.any_eq_true, h.mem_iff]

/-- Headers under names in small letters that come once each. -/
structure IsMap (headers : Headers) : Prop where
  small : ∀ header ∈ headers, Text.lowercase header.1 = header.1
  once : (headers.map Prod.fst).Nodup

theorem IsMap.nil : IsMap [] := ⟨nofun, .nil⟩

theorem IsMap.set (h : headers.IsMap) (small : Text.lowercase name = name) :
    (headers.set name value).IsMap where
  small := by
    intro header hmem
    rcases List.mem_append.1 hmem with hold | hnew
    · exact h.small header (List.mem_of_mem_filter hold)
    · rw [List.mem_singleton.1 hnew]
      exact small
  once := by
    have hold : ((headers.filter fun header => header.1 ≠ name).map Prod.fst).Nodup :=
      h.once.sublist (List.filter_sublist.map Prod.fst)
    rw [Headers.set, List.map_append, List.nodup_append]
    refine ⟨hold, List.nodup_singleton name, ?_⟩
    intro other hother last hlast
    obtain ⟨header, hmem, rfl⟩ := List.mem_map.1 hother
    rw [List.mem_singleton.1 hlast]
    simpa using (List.mem_filter.1 hmem).2

/-- No name comes twice, not even in letters of another case. -/
theorem IsMap.nodup_lowercase (h : headers.IsMap) :
    (headers.map fun header => Text.lowercase header.1).Nodup := by
  rw [List.map_congr_left h.small]
  exact h.once

/-- Such headers are told by their values but for their order. -/
theorem IsMap.perm (h : headers.IsMap) (h' : headers'.IsMap)
    (same : ∀ name, headers.values name = headers'.values name) : headers.Perm headers' := by
  rw [List.perm_ext_iff_of_nodup (.of_map _ h.once) (.of_map _ h'.once)]
  rintro ⟨name, value⟩
  rw [← mem_values, ← mem_values, same]

end Headers

end Http

/-! ### Endpoints -/

/-- The value that was given last for a name, which is in small letters. -/
def lastGiven (calls : List (String × String)) (name : String) : Option Bytes :=
  (calls.filter fun call => Text.lowercase call.1 = name).getLast?.map fun call =>
    Utf8.encode call.2

theorem lastGiven_append {calls : List (String × String)} {name value other : String} :
    lastGiven (calls ++ [(name, value)]) other =
      if other = Text.lowercase name then some (Utf8.encode value) else lastGiven calls other := by
  rw [lastGiven, List.filter_append]
  by_cases h : Text.lowercase name = other
  · simp [h]
  · simp [lastGiven, h, Ne.symm h]

namespace Endpoint

/-- An endpoint with the headers that it was asked for, one after the other. -/
inductive IsConfigured : Endpoint → List (String × String) → Prop
  | ofAddress {endpoint : Endpoint} {address : String} (h : ofAddress address = .ok endpoint) :
      IsConfigured endpoint []
  | withTimeout {endpoint : Endpoint} {calls : List (String × String)}
      (earlier : IsConfigured endpoint calls) (timeout : Duration) :
      IsConfigured (endpoint.withTimeout timeout) calls
  | withCapabilities {endpoint : Endpoint} {calls : List (String × String)}
      (earlier : IsConfigured endpoint calls) (capabilities : CapabilitySet) :
      IsConfigured (endpoint.withCapabilities capabilities) calls
  | withHeader {endpoint next : Endpoint} {calls : List (String × String)} {name value : String}
      (earlier : IsConfigured endpoint calls) (h : endpoint.withHeader name value = .ok next) :
      IsConfigured next (calls ++ [(name, value)])

/-- Two endpoints are alike if they are the same but for the order of their headers. -/
structure Alike (endpoint other : Endpoint) : Prop where
  address : endpoint.address = other.address
  timeout : endpoint.timeout = other.timeout
  headers : endpoint.headers.Perm other.headers
  capabilities : endpoint.capabilities = other.capabilities

/-- The endpoint with a value in place of all that it had under a name. -/
def carrying (endpoint : Endpoint) (name value : String) : Endpoint :=
  { endpoint with headers := endpoint.headers.set (Text.lowercase name) (Utf8.encode value) }

variable {endpoint endpoint' next last : Endpoint} {calls calls' : List (String × String)}
  {name name' value value' : String}

theorem headers_of_ofAddress {address : String} (h : ofAddress address = .ok endpoint) :
    endpoint.headers = [] := by
  unfold ofAddress at h
  split at h
  · cases h
    rfl
  · cases h

/-- Whether a header is taken depends on the header alone. -/
theorem withHeader_eq_ok_iff :
    endpoint.withHeader name value = .ok next ↔
      Http.IsHeader name value ∧ next = endpoint.carrying name value := by
  unfold withHeader Http.IsHeader carrying
  cases hname : Http.parseName name with
  | error e => simp
  | ok parsedName =>
    obtain rfl := Http.eq_lowercase_of_parseName hname
    cases hvalue : Http.parseValue value with
    | error e => simp
    | ok parsedValue =>
      obtain rfl := Http.eq_encode_of_parseValue hvalue
      simp [eq_comm]

theorem withHeader_of_isHeader (endpoint : Endpoint) (header : Http.IsHeader name value) :
    endpoint.withHeader name value = .ok (endpoint.carrying name value) :=
  withHeader_eq_ok_iff.2 ⟨header, rfl⟩

theorem IsConfigured.isMap (h : endpoint.IsConfigured calls) : endpoint.headers.IsMap := by
  induction h with
  | ofAddress h =>
    rw [headers_of_ofAddress h]
    exact .nil
  | withTimeout _ _ ih => exact ih
  | withCapabilities _ _ ih => exact ih
  | withHeader _ h ih =>
    obtain ⟨-, rfl⟩ := withHeader_eq_ok_iff.1 h
    exact ih.set (Text.lowercase_lowercase _)

/-- Under each name the endpoint has the value that was given last, and nothing else. -/
theorem IsConfigured.values (h : endpoint.IsConfigured calls) (name : String) :
    endpoint.headers.values name = (lastGiven calls name).toList := by
  induction h with
  | ofAddress h =>
    rw [headers_of_ofAddress h]
    rfl
  | withTimeout _ _ ih => exact ih
  | withCapabilities _ _ ih => exact ih
  | withHeader _ h ih =>
    obtain ⟨-, rfl⟩ := withHeader_eq_ok_iff.1 h
    rw [carrying, Http.Headers.values_set, lastGiven_append, ih]
    split <;> rfl

theorem IsConfigured.carrying (h : endpoint.IsConfigured calls)
    (header : Http.IsHeader name value) :
    (endpoint.carrying name value).IsConfigured (calls ++ [(name, value)]) :=
  h.withHeader (withHeader_of_isHeader endpoint header)

theorem IsConfigured.perm (h : endpoint.IsConfigured calls) (h' : endpoint'.IsConfigured calls')
    (same : ∀ name, lastGiven calls name = lastGiven calls' name) :
    endpoint.headers.Perm endpoint'.headers :=
  h.isMap.perm h'.isMap fun name => by rw [h.values, h'.values, same]

/-- Headers under different names may be asked for in either order. -/
theorem IsConfigured.withHeader_comm (h : endpoint.IsConfigured calls)
    (hne : Text.lowercase name ≠ Text.lowercase name')
    (hfirst : endpoint.withHeader name value = .ok next)
    (hsecond : next.withHeader name' value' = .ok last) :
    ∃ next' last', endpoint.withHeader name' value' = .ok next' ∧
      next'.withHeader name value = .ok last' ∧ last.Alike last' := by
  obtain ⟨header, rfl⟩ := withHeader_eq_ok_iff.1 hfirst
  obtain ⟨header', rfl⟩ := withHeader_eq_ok_iff.1 hsecond
  have hperm := ((h.carrying header).carrying header').perm
    ((h.carrying header').carrying header) (by
      intro other
      simp only [lastGiven_append]
      by_cases hother : other = Text.lowercase name
      · simp [hother, hne]
      · simp [hother])
  exact ⟨_, _, withHeader_of_isHeader endpoint header', withHeader_of_isHeader _ header,
    rfl, rfl, hperm, rfl⟩

/-- Asking for a header again changes nothing. -/
theorem withHeader_again (h : endpoint.withHeader name value = .ok next) :
    next.withHeader name value = .ok next := by
  obtain ⟨header, rfl⟩ := withHeader_eq_ok_iff.1 h
  refine withHeader_eq_ok_iff.2 ⟨header, ?_⟩
  rw [carrying, carrying, Http.Headers.set_set]

/-- Nor does it later, as long as no other value was given for the name. -/
theorem IsConfigured.alike_of_lastGiven (h : endpoint.IsConfigured calls)
    (hlast : lastGiven calls (Text.lowercase name) = some (Utf8.encode value))
    (hagain : endpoint.withHeader name value = .ok next) : next.Alike endpoint := by
  have hperm : next.headers.Perm endpoint.headers := by
    refine (h.withHeader hagain).perm h fun other => ?_
    rw [lastGiven_append]
    split
    · next hother => rw [hother, hlast]
    · rfl
  obtain ⟨-, rfl⟩ := withHeader_eq_ok_iff.1 hagain
  exact ⟨rfl, rfl, hperm, rfl⟩

end Endpoint

/-! ### Requests -/

namespace Node

variable {endpoint endpoint' : Endpoint} {calls : List (String × String)} {name : String}

theorem values_headers_get :
    (headers endpoint .get).values name =
      if name = "accept" then [Utf8.encode acceptEither] else endpoint.headers.values name :=
  Http.Headers.values_set

/-- The headers of the endpoint with those that go with a body in JSON. -/
def jsonHeaders (endpoint : Endpoint) : Http.Headers :=
  (endpoint.headers.set "content-type" (Utf8.encode "application/json")).set "accept"
    (Utf8.encode "application/json")

theorem values_jsonHeaders :
    (jsonHeaders endpoint).values name =
      if name = "content-type" ∨ name = "accept" then [Utf8.encode "application/json"]
      else endpoint.headers.values name := by
  rw [jsonHeaders, Http.Headers.values_set, Http.Headers.values_set]
  by_cases haccept : name = "accept"
  · simp [haccept]
  · simp [haccept]

/-- An agent is added where the endpoint has none. -/
theorem headers_post :
    headers endpoint .post =
      if endpoint.headers.has "user-agent" then jsonHeaders endpoint
      else (jsonHeaders endpoint).set "user-agent" (Utf8.encode defaultAgent) := by
  have hagent : (jsonHeaders endpoint).has "user-agent" = endpoint.headers.has "user-agent" := by
    rw [jsonHeaders, Http.Headers.has_set_of_ne (by decide), Http.Headers.has_set_of_ne (by decide)]
  rw [← hagent]
  rfl

theorem values_headers_post :
    (headers endpoint .post).values name =
      if name = "content-type" ∨ name = "accept" then [Utf8.encode "application/json"]
      else if name = "user-agent" ∧ endpoint.headers.values name = [] then
        [Utf8.encode defaultAgent]
      else endpoint.headers.values name := by
  rw [headers_post]
  cases hagent : endpoint.headers.has "user-agent" with
  | false =>
    have hnone := Http.Headers.has_eq_false_iff.1 hagent
    rw [if_neg (by simp), Http.Headers.values_set, values_jsonHeaders]
    by_cases hname : name = "user-agent"
    · simp [hname, hnone]
    · simp [hname]
  | true =>
    have hsome : ¬ (name = "user-agent" ∧ endpoint.headers.values name = []) := by
      rintro ⟨rfl, hnone⟩
      rw [Http.Headers.has_eq_false_iff.2 hnone] at hagent
      cases hagent
    rw [if_pos rfl, values_jsonHeaders, if_neg hsome]

theorem headers_isMap (h : endpoint.headers.IsMap) (method : Http.Method) :
    (headers endpoint method).IsMap := by
  have hjson : (jsonHeaders endpoint).IsMap := (h.set rfl).set rfl
  cases method with
  | get => exact h.set rfl
  | post =>
    rw [headers_post]
    split
    · exact hjson
    · exact hjson.set rfl

/-- What is sent does not depend on the order of the endpoint's headers. -/
theorem headers_perm (h : endpoint.headers.Perm endpoint'.headers) (method : Http.Method) :
    (headers endpoint method).Perm (headers endpoint' method) := by
  have hjson : (jsonHeaders endpoint).Perm (jsonHeaders endpoint') :=
    Http.Headers.perm_set (Http.Headers.perm_set h _ _) _ _
  cases method with
  | get => exact Http.Headers.perm_set h _ _
  | post =>
    rw [headers_post, headers_post, Http.Headers.has_congr h]
    split
    · exact hjson
    · exact Http.Headers.perm_set hjson _ _

theorem Call.headers_of_send? {call : Call} {request : Http.Request}
    (h : call.send? endpoint = some request) :
    request.headers = headers endpoint call.method := by
  unfold Call.send? at h
  split at h
  · cases h
    rfl
  · cases h

/-- **Headers sent.** Take any endpoint with the headers that it was asked for. A request holds no
name twice, in letters of whatever case. With GET the header `Accept` tells the preferred encoding,
and with POST `Content-Type` and `Accept` both tell JSON, whatever the endpoint was asked for. With
POST `User-Agent` is the one that was asked for last, or the default. All other headers are those
that were asked for last, and there are no others. So what is sent depends only on what was asked
for last under each name, but for its order. Headers under different names may be asked for in
either order, and asking for one again changes nothing. -/
theorem headers_sent (configured : endpoint.IsConfigured calls) :
    (∀ method, ((headers endpoint method).map fun header => Text.lowercase header.1).Nodup) ∧
    (∀ name, (headers endpoint .get).values name =
      if name = "accept" then [Utf8.encode acceptEither] else (lastGiven calls name).toList) ∧
    (∀ name, (headers endpoint .post).values name =
      if name = "content-type" ∨ name = "accept" then [Utf8.encode "application/json"]
      else if name = "user-agent" then [(lastGiven calls name).getD (Utf8.encode defaultAgent)]
      else (lastGiven calls name).toList) ∧
    (∀ call request, Call.send? endpoint call = some request →
      request.method = call.method ∧ request.headers = headers endpoint call.method) ∧
    (∀ endpoint' calls', Endpoint.IsConfigured endpoint' calls' →
      (∀ name, lastGiven calls name = lastGiven calls' name) →
      ∀ method, (headers endpoint method).Perm (headers endpoint' method)) ∧
    (∀ name value name' value' next last, Text.lowercase name ≠ Text.lowercase name' →
      endpoint.withHeader name value = .ok next → next.withHeader name' value' = .ok last →
      ∃ next' last', endpoint.withHeader name' value' = .ok next' ∧
        next'.withHeader name value = .ok last' ∧ last.Alike last' ∧
        ∀ method, (headers last method).Perm (headers last' method)) ∧
    (∀ name value next, endpoint.withHeader name value = .ok next →
      next.withHeader name value = .ok next) ∧
    ∀ name value next, endpoint.withHeader name value = .ok next →
      lastGiven calls (Text.lowercase name) = some (Utf8.encode value) →
      next.Alike endpoint ∧ ∀ method, (headers next method).Perm (headers endpoint method) := by
  refine ⟨fun method => (headers_isMap configured.isMap method).nodup_lowercase, ?_, ?_,
    fun _ _ h => ⟨Call.method_of_send? h, Call.headers_of_send? h⟩,
    fun _ _ configured' same => headers_perm (configured.perm configured' same), ?_,
    fun _ _ _ => Endpoint.withHeader_again, ?_⟩
  · intro name
    rw [values_headers_get, configured.values]
  · intro name
    rw [values_headers_post, configured.values]
    by_cases hname : name = "user-agent"
    · cases lastGiven calls name <;> simp [hname]
    · simp [hname]
  · intro name value name' value' next last hne hfirst hsecond
    obtain ⟨next', last', hfirst', hsecond', alike⟩ :=
      configured.withHeader_comm hne hfirst hsecond
    exact ⟨next', last', hfirst', hsecond', alike, headers_perm alike.headers⟩
  · intro name value next hagain hlast
    have alike := configured.alike_of_lastGiven hlast hagain
    exact ⟨alike, headers_perm alike.headers⟩

/-- The first agent is given up for the second, and what GET accepts is not taken from the
endpoint. -/
theorem headers_sent_agents :
    ∃ endpoint : Endpoint, endpoint.IsConfigured
        [("User-Agent", "first"), ("Accept", "text/plain"), ("user-agent", "second")] ∧
      (headers endpoint .get).values "accept" = [Utf8.encode acceptEither] ∧
      (headers endpoint .post).values "user-agent" = [Utf8.encode "second"] ∧
      (∃ next last next' last', Text.lowercase "X-Api-Key" ≠ Text.lowercase "Cookie" ∧
        endpoint.withHeader "X-Api-Key" "secret" = .ok next ∧
        next.withHeader "Cookie" "none" = .ok last ∧
        endpoint.withHeader "Cookie" "none" = .ok next' ∧
        next'.withHeader "X-Api-Key" "secret" = .ok last' ∧ last.Alike last' ∧
        next.withHeader "X-Api-Key" "secret" = .ok next) ∧
      ∃ next, endpoint.withHeader "USER-AGENT" "second" = .ok next ∧ next.Alike endpoint := by
  obtain ⟨endpoint, configured⟩ : ∃ endpoint : Endpoint, endpoint.IsConfigured
      [("User-Agent", "first"), ("Accept", "text/plain"), ("user-agent", "second")] := by
    obtain ⟨bare, hbare⟩ : ∃ bare, Endpoint.ofAddress "http://[::1]:5052" = .ok bare := ⟨_, rfl⟩
    exact ⟨_, (((Endpoint.IsConfigured.ofAddress hbare).carrying ⟨rfl, rfl⟩).carrying
      ⟨rfl, rfl⟩).carrying ⟨rfl, rfl⟩⟩
  obtain ⟨-, got, posted, -, -, either, again, later⟩ := headers_sent configured
  have hkey : endpoint.withHeader "X-Api-Key" "secret" = _ :=
    Endpoint.withHeader_of_isHeader endpoint ⟨rfl, rfl⟩
  have hcookie : (endpoint.carrying "X-Api-Key" "secret").withHeader "Cookie" "none" = _ :=
    Endpoint.withHeader_of_isHeader _ ⟨rfl, rfl⟩
  have hagain : endpoint.withHeader "USER-AGENT" "second" = _ :=
    Endpoint.withHeader_of_isHeader endpoint ⟨rfl, rfl⟩
  obtain ⟨_, _, hcookie', hkey', alike, -⟩ := either _ _ _ _ _ _ (by decide) hkey hcookie
  exact ⟨endpoint, configured, got "accept", posted "user-agent",
    ⟨_, _, _, _, by decide, hkey, hcookie, hcookie', hkey', alike, again _ _ _ hkey⟩,
    _, hagain, (later _ _ _ hagain rfl).1⟩

end Node

end Beacon
