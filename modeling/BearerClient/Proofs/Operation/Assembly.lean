import BearerClient.Proofs.Operation.Completeness
import BearerClient.Proofs.Operation.Source
import BearerClient.Proofs.Wire.Collected

/-!
# Calls on the wire

A call is built step by step, and what its request looks like can be told from the steps: the
last body counts and the last timeout, and all headers in the order in which they were given.
What is added to them gives way to the caller, but for the bearer, and the media type that is
asked for unless the call is raw.
-/

namespace BearerClient

namespace ApiCall

/-! ## What the steps say -/

namespace Step

/-- The header that a step adds. -/
def field? : Step → Option (String × HeaderValue)
  | header name value =>
    match headerName? name, HeaderValue.ofOctets? value with
    | some name, some value => some (name, value)
    | _, _ => none
  | _ => none

/-- The body that a step sets, and whether it is a JSON value. -/
def content? : Step → Option (Body × Bool)
  | json value => some (.text value.sorted.text, true)
  | text content => some (.text content, false)
  | bytes octets => some (.bytes octets, false)
  | withBody content => some (content, false)
  | _ => none

def timeout? : Step → Option (Option Duration)
  | withTimeout time => some (some time)
  | _ => none

def isRaw : Step → Bool
  | asRaw => true
  | _ => false

end Step

/-- The headers that some steps add, in order. -/
def fieldsOf (steps : List Step) : List (String × HeaderValue) := steps.filterMap Step.field?

/-- The values that some steps give to a name. -/
def givenBy (steps : List Step) (name : String) : List HeaderValue :=
  Headers.given (fieldsOf steps) name

/-- The names that some steps give values to, in the order of their first appearance. -/
def namesGivenBy (steps : List Step) : List String :=
  ((fieldsOf steps).map Prod.fst).eraseDups

/-- The last body that is set counts. -/
def contentOf (steps : List Step) : Body × Bool :=
  (steps.filterMap Step.content?).getLast?.getD (.empty, false)

def timeoutOf (steps : List Step) : Option Duration :=
  (steps.filterMap Step.timeout?).getLast?.getD none

/-- The names that are added on the wire unless they are given. -/
def addedTo (steps : List Step) : List String :=
  (if steps.any Step.isRaw then [] else ["accept"]) ++
    (if (contentOf steps).2 then ["content-type"] else []) ++ ["user-agent", "authorization"]

/-! ## What the call holds -/

section Build

variable {method path : String} {steps : List Step}

theorem build_concat (step : Step) :
    build method path (steps ++ [step]) = step.apply (build method path steps) := by
  rw [build, List.foldl_append]
  rfl

/-- Of all steps that set a part of the call, the last one counts. -/
theorem build_last {α : Type} (part : ApiCall → α) (set? : Step → Option α)
    (hstep : ∀ (call : ApiCall) (step : Step),
      part (step.apply call) = (set? step).getD (part call)) :
    part (build method path steps) =
      (steps.filterMap set?).getLast?.getD (part { method, path }) := by
  induction steps using List.reverseRecOn with
  | nil => rfl
  | append_singleton rest step ih =>
      rw [build_concat, hstep, ih, List.filterMap_append, List.getLast?_append]
      cases hset : set? step <;> simp [hset]

/-- A header is appended or refused, and nothing else of the call changes. -/
theorem header_cases (call : ApiCall) (name : String) (value : Bytes) :
    (∃ field, (Step.header name value).field? = some field ∧
        call.header name value =
          { call with headers := call.headers.append field.1 field.2 }) ∨
      (Step.header name value).field? = none ∧
        ∃ fault, call.header name value = call.refuse fault := by
  cases hname : headerName? name with
  | none =>
      refine .inr ⟨?_, .name, ?_⟩
      · simp only [Step.field?, hname]
      · simp only [header, hname]
  | some lower =>
      cases hvalue : HeaderValue.ofOctets? value with
      | none =>
          refine .inr ⟨?_, .value lower, ?_⟩
          · simp only [Step.field?, hname, hvalue]
          · simp only [header, hname, hvalue]
      | some held =>
          refine .inl ⟨(lower, held), ?_, ?_⟩
          · simp only [Step.field?, hname, hvalue]
          · simp only [header, hname, hvalue]

/-- Steps that only add a header leave a part of the call that is not its headers. -/
theorem header_part {α : Type} (part : ApiCall → α)
    (happend : ∀ call headers, part { call with headers } = part call)
    (hrefuse : ∀ call refused, part { call with refused } = part call)
    (call : ApiCall) (name : String) (value : Bytes) :
    part (call.header name value) = part call := by
  rcases header_cases call name value with ⟨field, -, hcall⟩ | ⟨-, fault, hcall⟩
  · rw [hcall, happend]
  · rw [hcall, refuse, hrefuse]

theorem apply_method (call : ApiCall) (step : Step) :
    (step.apply call).method = call.method := by
  cases step with
  | header name value =>
      exact header_part ApiCall.method (fun _ _ => rfl) (fun _ _ => rfl) call name value
  | copy => rw [apply_copy]
  | _ => rfl

theorem build_method : (build method path steps).method = method := by
  induction steps using List.reverseRecOn with
  | nil => rfl
  | append_singleton rest step ih => rw [build_concat, apply_method, ih]

theorem build_content :
    ((build method path steps).body, (build method path steps).jsonBody) = contentOf steps := by
  apply build_last (fun call => (call.body, call.jsonBody)) Step.content?
  intro call step
  cases step with
  | header name value =>
      exact header_part (fun call => (call.body, call.jsonBody)) (fun _ _ => rfl)
        (fun _ _ => rfl) call name value
  | copy =>
      rw [apply_copy]
      rfl
  | _ => rfl

theorem build_timeout : (build method path steps).timeout = timeoutOf steps := by
  apply build_last ApiCall.timeout Step.timeout?
  intro call step
  cases step with
  | header name value =>
      exact header_part ApiCall.timeout (fun _ _ => rfl) (fun _ _ => rfl) call name value
  | copy =>
      rw [apply_copy]
      rfl
  | _ => rfl

theorem apply_raw (call : ApiCall) (step : Step) :
    (step.apply call).raw = (call.raw || step.isRaw) := by
  cases step with
  | header name value =>
      exact (header_part ApiCall.raw (fun _ _ => rfl) (fun _ _ => rfl) call name value).trans
        (Bool.or_false _).symm
  | copy =>
      rw [apply_copy]
      exact (Bool.or_false _).symm
  | asRaw => exact (Bool.or_true _).symm
  | _ => exact (Bool.or_false _).symm

theorem build_raw : (build method path steps).raw = steps.any Step.isRaw := by
  induction steps using List.reverseRecOn with
  | nil => rfl
  | append_singleton rest step ih =>
      rw [build_concat, apply_raw, ih, List.any_append, List.any_cons, List.any_nil,
        Bool.or_false]

theorem build_headers :
    (build method path steps).headers = Headers.collect (fieldsOf steps) := by
  induction steps using List.reverseRecOn with
  | nil => rfl
  | append_singleton rest step ih =>
      have hunchanged (hfield : step.field? = none) :
          fieldsOf (rest ++ [step]) = fieldsOf rest := by
        rw [fieldsOf, List.filterMap_append, List.filterMap_cons_none hfield]
        exact List.append_nil _
      rw [build_concat]
      cases step with
      | header name value =>
          rcases header_cases (build method path rest) name value with
            ⟨field, hfield, hcall⟩ | ⟨hfield, fault, hcall⟩
          · rw [Step.apply, hcall, fieldsOf, List.filterMap_append,
              List.filterMap_cons_some hfield, List.filterMap_nil, ← fieldsOf,
              Headers.collect_concat, ih]
          · rw [Step.apply, hcall, hunchanged hfield, ← ih, refuse]
      | copy => rw [apply_copy, hunchanged rfl, ih]
      | _ => exact ih.trans (congrArg Headers.collect (hunchanged rfl).symm)

end Build

/-! ## What goes out -/

/-- The bearer of a token. -/
def bearerOf (token : String) : HeaderValue :=
  { octets := Text.utf8 ("Bearer " ++ token), sensitive := true }

/-- The token may stand in a header. -/
def IsLegal (token : String) : Prop := (Text.utf8 token).all HeaderValue.validOctet = true

theorem bearerValue_of_isLegal {token : String} (htoken : IsLegal token) :
    bearerValue token = .ok (bearerOf token) := by
  have hlegal : (Text.utf8 ("Bearer " ++ token)).all HeaderValue.validOctet = true := by
    rw [Text.utf8_append, List.all_append, htoken, Bool.and_true]
    decide
  rw [bearerValue, HeaderValue.ofText?, HeaderValue.ofOctets?, if_pos hlegal]
  rfl

/-- The user agent of a configuration, as it is sent. -/
def agentOf (config : Config) : HeaderValue := { octets := Text.utf8 config.userAgent }

theorem userAgentValue_eq_ok {config : Config} {value : HeaderValue}
    (hagent : config.userAgentValue = .ok value) : value = agentOf config := by
  unfold Config.userAgentValue HeaderValue.ofText? HeaderValue.ofOctets? at hagent
  split at hagent
  · rename_i held hheld
    rw [Option.ite_none_right_eq_some] at hheld
    exact (Except.ok.inj hagent).symm.trans (Option.some.inj hheld.2).symm
  · cases hagent

section Headers

variable {call : ApiCall} {config : Config} {headers rest : Headers} {token : String}

theorem openHeaders_eq_ok (hopen : call.openHeaders config = .ok rest) :
    rest = call.typedHeaders.insertIfAbsent "user-agent" (agentOf config) := by
  unfold openHeaders at hopen
  unfold Headers.insertIfAbsent
  split at hopen
  case isTrue hgiven =>
    rw [if_pos hgiven]
    exact (Except.ok.inj hopen).symm
  case isFalse hgiven =>
    rw [if_neg hgiven]
    cases hagent : config.userAgentValue with
    | error failure =>
        rw [hagent] at hopen
        cases hopen
    | ok value =>
        rw [hagent] at hopen
        rw [← userAgentValue_eq_ok hagent]
        exact (Except.ok.inj hopen).symm

theorem wireHeaders_eq_insert (hheaders : call.wireHeaders config token = .ok headers) :
    headers = (call.typedHeaders.insertIfAbsent "user-agent" (agentOf config)).insert
      "authorization" (bearerOf token) := by
  obtain ⟨rest, bearer, hrest, hbearer, rfl⟩ := wireHeaders_eq_ok hheaders
  rw [openHeaders_eq_ok hrest, bearerValue_eq_ok hbearer, bearerOf]

end Headers

end ApiCall

/-- The request of a call, told from the steps that built the call. -/
structure Wire.Request.Renders (request : Wire.Request) (config : Config)
    (method path : String) (steps : List ApiCall.Step) (token : String) : Prop where
  method : request.method = method
  url : config.requestUrl path = .ok request.url
  body : request.body = (ApiCall.contentOf steps).1
  timeout : request.timeout = (ApiCall.timeoutOf steps).getD config.requestTimeout
  /-- the bearer is the token alone, whatever else is given -/
  authorization : request.headers.values "authorization" = [ApiCall.bearerOf token]
  accept : request.headers.values "accept" =
    if steps.any ApiCall.Step.isRaw then ApiCall.givenBy steps "accept" else [Config.jsonType]
  contentType : request.headers.values "content-type" =
    if ApiCall.givenBy steps "content-type" ≠ [] then ApiCall.givenBy steps "content-type"
    else if (ApiCall.contentOf steps).2 then [Config.jsonType] else []
  userAgent : request.headers.values "user-agent" =
    if ApiCall.givenBy steps "user-agent" ≠ [] then ApiCall.givenBy steps "user-agent"
    else [ApiCall.agentOf config]
  others : ∀ name, name ∉ ["authorization", "accept", "content-type", "user-agent"] →
    request.headers.values name = ApiCall.givenBy steps name
  /-- names that are given keep their order, and those that are added follow -/
  names : request.headers.names = ApiCall.namesGivenBy steps ++
    (ApiCall.addedTo steps).filter (· ∉ ApiCall.namesGivenBy steps)

namespace ApiCall

section Renders

variable {config : Config} {method path url token : String} {steps : List Step}

/-- The headers on the wire, from what the steps say. -/
def rendered (config : Config) (steps : List Step) (token : String) : Headers :=
  let given := Headers.collect (fieldsOf steps)
  let asked := if steps.any Step.isRaw then given else given.insert "accept" Config.jsonType
  let typed := if (contentOf steps).2 then asked.insertIfAbsent "content-type" Config.jsonType
    else asked
  (typed.insertIfAbsent "user-agent" (agentOf config)).insert "authorization" (bearerOf token)

theorem wireHeaders_build {headers : Headers}
    (hheaders : (build method path steps).wireHeaders config token = .ok headers) :
    headers = rendered config steps token := by
  have hjson : (build method path steps).jsonBody = (contentOf steps).2 :=
    congrArg Prod.snd build_content
  rw [wireHeaders_eq_insert hheaders, typedHeaders, build_headers, build_raw, hjson]
  rfl

theorem names_rendered : (rendered config steps token).names = namesGivenBy steps ++
    (addedTo steps).filter (· ∉ namesGivenBy steps) := by
  have hnodup : (addedTo steps).Nodup := by
    unfold addedTo
    split <;> split <;> decide
  rw [← Headers.foldl_withName _ hnodup, rendered, addedTo]
  cases steps.any Step.isRaw <;> cases (contentOf steps).2 <;>
    simp [Headers.names_insert, Headers.names_insertIfAbsent, Headers.names_collect,
      namesGivenBy]

theorem contains_given {name : String} :
    (Headers.collect (fieldsOf steps)).contains name = false ↔ givenBy steps name = [] := by
  rw [← Bool.not_eq_true, Headers.contains_collect, not_not, givenBy]

theorem values_given (name : String) :
    (Headers.collect (fieldsOf steps)).values name = givenBy steps name :=
  Headers.values_collect name (fieldsOf steps)

theorem values_rendered_accept : (rendered config steps token).values "accept" =
    if steps.any Step.isRaw then givenBy steps "accept" else [Config.jsonType] := by
  cases hraw : steps.any Step.isRaw <;> cases hjson : (contentOf steps).2 <;>
    simp [rendered, hraw, hjson, Headers.values_insert, Headers.values_insertIfAbsent, values_given]

theorem values_rendered_contentType : (rendered config steps token).values "content-type" =
    if givenBy steps "content-type" ≠ [] then givenBy steps "content-type"
    else if (contentOf steps).2 then [Config.jsonType] else [] := by
  cases hraw : steps.any Step.isRaw <;> cases hjson : (contentOf steps).2 <;>
    by_cases hgiven : givenBy steps "content-type" = [] <;>
    simp [rendered, hraw, hjson, hgiven, Headers.values_insert, Headers.values_insertIfAbsent,
      values_given, contains_given]

theorem values_rendered_userAgent : (rendered config steps token).values "user-agent" =
    if givenBy steps "user-agent" ≠ [] then givenBy steps "user-agent"
    else [agentOf config] := by
  cases hraw : steps.any Step.isRaw <;> cases hjson : (contentOf steps).2 <;>
    by_cases hgiven : givenBy steps "user-agent" = [] <;>
    simp [rendered, hraw, hjson, hgiven, Headers.values_insert, Headers.values_insertIfAbsent,
      values_given, contains_given]

theorem values_rendered_other {name : String}
    (hname : name ∉ ["authorization", "accept", "content-type", "user-agent"]) :
    (rendered config steps token).values name = givenBy steps name := by
  simp only [List.mem_cons, List.not_mem_nil, or_false, not_or] at hname
  obtain ⟨hauthorization, haccept, htype, hagent⟩ := hname
  cases hraw : steps.any Step.isRaw <;> cases hjson : (contentOf steps).2 <;>
    simp [rendered, hraw, hjson, hauthorization, haccept, htype, hagent,
      Headers.values_insert, Headers.values_insertIfAbsent, values_given]

/-- A call that is assembled looks as its steps say. -/
theorem renders_of_assemble (hurl : config.requestUrl path = .ok url)
    {request : Wire.Request}
    (hrequest : (build method path steps).assemble config url token = .ok request) :
    request.Renders config method path steps token := by
  obtain ⟨headers, hheaders, rfl⟩ := assemble_eq_ok hrequest
  obtain rfl := wireHeaders_build hheaders
  exact {
    method := build_method
    url := hurl
    body := congrArg Prod.fst build_content
    timeout := congrArg (·.getD config.requestTimeout) build_timeout
    authorization := Headers.values_insert_self ..
    accept := values_rendered_accept
    contentType := values_rendered_contentType
    userAgent := values_rendered_userAgent
    others := fun _ hname => values_rendered_other hname
    names := names_rendered }

/-- Nothing but an illegal token or user agent stands in the way of a request. -/
theorem assemble_of_isLegal (hgrant : config.CanGrant) (htoken : IsLegal token) (call : ApiCall)
    (url : String) : ∃ request, call.assemble config url token = .ok request := by
  obtain ⟨agent, hagent⟩ := hgrant
  have hopen : ∃ rest, call.openHeaders config = .ok rest := by
    unfold openHeaders
    rw [hagent]
    split <;> exact ⟨_, rfl⟩
  obtain ⟨rest, hrest⟩ := hopen
  rw [assemble, wireHeaders_eq, hrest, bearerValue_of_isLegal htoken]
  exact ⟨_, rfl⟩

/-- Two requests of a call differ in their bearer alone. -/
theorem assemble_alike {call : ApiCall} {token' : String} {request request' : Wire.Request}
    (hrequest : call.assemble config url token = .ok request)
    (hrequest' : call.assemble config url token' = .ok request') :
    request' = { request with
      headers := request.headers.insert "authorization" (bearerOf token') } := by
  obtain ⟨headers, hheaders, rfl⟩ := assemble_eq_ok hrequest
  obtain ⟨headers', hheaders', rfl⟩ := assemble_eq_ok hrequest'
  rw [wireHeaders_eq_insert hheaders, wireHeaders_eq_insert hheaders']
  simp only [Headers.insert_insert]

end Renders
end ApiCall

/-! ## Every attempt -/

/-- The event sends a call, and not a grant. -/
def Event.SendsCall (event : Event) (request : Wire.Request) : Prop :=
  event.query = .send request ∧ request.hasBearer = true

namespace Session

variable {σ : Type} {config : Config} {backend : Backend σ} {operations : List Operation}

/-- What a session logs are the events of its operations. -/
theorem exists_of_mem_log {start : World σ} {entry : Operation × Event}
    (hentry : entry ∈ log config backend operations start) :
    ∃ world, entry.2 ∈ (entry.1.perform config).run.events backend world := by
  induction operations generalizing start with
  | nil => cases hentry
  | cons operation rest ih =>
      rw [log, List.mem_append, List.mem_map] at hentry
      rcases hentry with ⟨event, hevent, rfl⟩ | hrest
      · exact ⟨start, hevent⟩
      · exact ih hrest

/-- A call goes out with the token that is stored when it is sent. -/
theorem assemble_of_sendsCall {outside : σ} {entry : Operation × Event}
    (hentry : entry ∈ log config backend operations { outside }) {call : ApiCall}
    (hcall : entry.1.call? = some call) {request : Wire.Request}
    (hsends : entry.2.SendsCall request) :
    ∃ url, config.requestUrl call.path = .ok url ∧
      call.assemble config url entry.2.stored.token = .ok request := by
  obtain ⟨hquery, hbearer⟩ := hsends
  obtain ⟨world, hevent⟩ := exists_of_mem_log hentry
  have honly : (entry.1.perform config).run.SendsOnly fun request =>
      request.hasBearer = true → ∃ url token, config.requestUrl call.path = .ok url ∧
        call.assemble config url token = .ok request :=
    Operation.perform_sendsOnly (fun _ hgrant hcalled => nomatch hgrant.symm.trans hcalled)
      (fun url token _ hurl hrequest _ => ⟨url, token, hurl, hrequest⟩) hcall
  obtain ⟨url, token, hurl, hrequest⟩ := honly.of_mem_events backend hevent hquery hbearer
  have hwhole := (isWhole config backend outside operations).2 entry hentry
  obtain ⟨htoken, -⟩ :=
    (hwhole.2.2 request hquery).token_eq (ApiCall.bears_of_assemble hrequest)
  exact ⟨url, hurl, htoken ▸ hrequest⟩

/-- How the attempts of a call look in a session. -/
structure RendersCall (config : Config) (method path : String) (steps : List ApiCall.Step)
    (log : List (Operation × Event)) : Prop where
  rendered : ∀ entry ∈ log, entry.1.call? = some (ApiCall.build method path steps) →
    ∀ request, entry.2.SendsCall request →
      request.Renders config method path steps entry.2.stored.token
  /-- any two of them differ in their bearer alone -/
  alike : ∀ entry ∈ log, entry.1.call? = some (ApiCall.build method path steps) →
    ∀ other ∈ log, other.1.call? = some (ApiCall.build method path steps) →
      ∀ request request', entry.2.SendsCall request → other.2.SendsCall request' →
        request' = { request with
          headers := request.headers.insert "authorization"
            (ApiCall.bearerOf other.2.stored.token) }

theorem rendersCall (config : Config) (method path : String) (steps : List ApiCall.Step)
    (backend : Backend σ) (outside : σ) (operations : List Operation) :
    RendersCall config method path steps (log config backend operations { outside }) where
  rendered entry hentry hcall request hsends := by
    obtain ⟨url, hurl, hrequest⟩ := assemble_of_sendsCall hentry hcall hsends
    rw [ApiCall.build_path] at hurl
    exact ApiCall.renders_of_assemble hurl hrequest
  alike entry hentry hcall other hother hcall' request request' hsends hsends' := by
    obtain ⟨url, hurl, hrequest⟩ := assemble_of_sendsCall hentry hcall hsends
    obtain ⟨url', hurl', hrequest'⟩ := assemble_of_sendsCall hother hcall' hsends'
    rw [hurl] at hurl'
    cases hurl'
    exact ApiCall.assemble_alike hrequest hrequest'

end Session

/-- A call that is built from legal headers can be sent with any legal token, and every
attempt of it looks as its steps say, in any session. -/
theorem ApiCall.wire_assembly (config : Config) (hgrant : config.CanGrant)
    (method path url : String) (steps : List Step) (hlegal : firstFault? steps = none)
    (hurl : config.requestUrl path = .ok url) :
    (build method path steps).target config = .ok url ∧
      (∀ token, IsLegal token → ∃ request,
        (build method path steps).assemble config url token = .ok request ∧
          request.Renders config method path steps token) ∧
      ∀ (σ : Type) (backend : Backend σ) (outside : σ) (operations : List Operation),
        Session.RendersCall config method path steps
          (Session.log config backend operations { outside }) := by
  refine ⟨(target_build hlegal).trans hurl, fun token htoken => ?_, fun σ backend outside
    operations => Session.rendersCall config method path steps backend outside operations⟩
  obtain ⟨request, hrequest⟩ :=
    assemble_of_isLegal hgrant htoken (build method path steps) url
  exact ⟨request, hrequest, renders_of_assemble hurl hrequest⟩

/-- A call with headers of its own for all that is added, which turns raw and back to text. -/
theorem ApiCall.wire_assembly_layered :
    let config : Config :=
      { apiUrl := "https://api.test/v1", login := ⟨"user", "secret", "id", "key"⟩ }
    let steps : List Step := [
      .header "X-Trace" (Text.utf8 "1"), .header "Authorization" (Text.utf8 "mine"),
      .header "accept" (Text.utf8 "text/plain"), .json (.object []),
      .header "x-trace" (Text.utf8 "2"), .header "Accept" (Text.utf8 "*/*"), .asRaw,
      .header "authorization" (Text.utf8 "again"), .text "content"]
    config.CanGrant ∧ firstFault? steps = none ∧
      config.requestUrl "items" = .ok "https://api.test/v1/items" ∧ IsLegal "token" ∧
        ∃ request, (build "PUT" "items" steps).assemble config "https://api.test/v1/items"
            "token" = .ok request ∧
          request.Renders config "PUT" "items" steps "token" := by
  intro config steps
  have hgrant : config.CanGrant := Config.canGrant_of_validOctets (by decide +kernel)
  have hlegal : firstFault? steps = none := by decide +kernel +zetaReduce
  have hurl : config.requestUrl "items" = .ok "https://api.test/v1/items" := by
    decide +kernel +zetaReduce
  have htoken : IsLegal "token" := by
    unfold IsLegal
    decide +kernel
  obtain ⟨-, hassembled, -⟩ :=
    wire_assembly config hgrant "PUT" "items" "https://api.test/v1/items" steps hlegal hurl
  exact ⟨hgrant, hlegal, hurl, htoken, hassembled "token" htoken⟩

end BearerClient
