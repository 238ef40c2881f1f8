import BearerClient.Proofs.Delivery.Agreement
import BearerClient.Proofs.Operation.Origin

/-!
# Refused calls

A call is built step by step.  What is wrong with it is found out before its
surroundings are asked anything: the first header that is not legal, a stream that
would have to be sent more than once, a path that leads away from the API.  So a
refused call ends where it starts, whatever is stored and whoever else is at work.
-/

namespace BearerClient

/-! ## Building a call -/

namespace ApiCall

/-- One step of building a call. -/
inductive Step where
  | header (name : String) (value : Bytes)
  | json (value : Json.Value)
  | text (content : String)
  | bytes (octets : Bytes)
  | withBody (content : Body)
  | asRaw
  | withTimeout (time : Duration)
  | withMaxRetries (retries : UInt32)
  /-- go on with a second copy, if the call has one -/
  | copy

namespace Step

def apply (call : ApiCall) : Step → ApiCall
  | header name value => call.header name value
  | json value => call.json value
  | text content => call.text content
  | bytes octets => call.bytes octets
  | withBody content => call.withBody content
  | asRaw => call.asRaw
  | withTimeout time => call.withTimeout time
  | withMaxRetries retries => call.withMaxRetries retries
  | copy => call.copy?.getD call

/-- What is not legal about the header of a step. -/
def fault? : Step → Option HeaderFault
  | header name value =>
    match headerName? name with
    | none => some .name
    | some name => if value.all HeaderValue.validOctet then none else some (.value name)
  | _ => none

end Step

/-- The fault of the first step that has one. -/
def firstFault? (steps : List Step) : Option HeaderFault := steps.findSome? Step.fault?

/-- A call with a method and a path, after some steps. -/
def build (method path : String) (steps : List Step) : ApiCall :=
  steps.foldl Step.apply { method, path }

section Build

variable (call : ApiCall) (steps : List Step)

theorem eq_of_copy? {call copied : ApiCall} (hcopy : call.copy? = some copied) :
    call = copied := by
  cases hstream : call.body.isStream with
  | false => exact Option.some.inj ((copy?_eq hstream).symm.trans hcopy)
  | true => cases (copy?_stream hstream).symm.trans hcopy

/-- A copy is the call itself, so it makes no difference which of them goes on. -/
@[simp] theorem apply_copy : Step.copy.apply call = call := by
  rw [Step.apply]
  cases hcopy : call.copy? with
  | none => rfl
  | some copied => exact (eq_of_copy? hcopy).symm

theorem apply_header_refused (name : String) (value : Bytes) :
    (call.header name value).refused =
      call.refused.or (Step.header name value).fault? := by
  cases hname : headerName? name with
  | none => simp only [header, Step.fault?, hname, refuse]
  | some lower =>
      simp only [header, Step.fault?, hname, HeaderValue.ofOctets?]
      cases value.all HeaderValue.validOctet with
      | false => rfl
      | true => exact Option.or_none.symm

/-- A step remembers its own fault only if there was none before. -/
theorem apply_refused (step : Step) :
    (step.apply call).refused = call.refused.or step.fault? := by
  cases step with
  | header name value => exact call.apply_header_refused name value
  | copy =>
      rw [apply_copy]
      exact Option.or_none.symm
  | _ => exact Option.or_none.symm

theorem apply_path (step : Step) : (step.apply call).path = call.path := by
  cases step with
  | header name value =>
      change (call.header name value).path = _
      unfold header
      split
      · rfl
      · split <;> rfl
  | copy => rw [apply_copy]
  | _ => rfl

theorem foldl_refused :
    (steps.foldl Step.apply call).refused = call.refused.or (firstFault? steps) := by
  -- What is remembered so far goes along as the call that is built.
  induction steps generalizing call with
  | nil => exact (Option.or_none).symm
  | cons step rest ih =>
      rw [List.foldl_cons, ih, apply_refused, Option.or_assoc, firstFault?,
        firstFault?, List.findSome?_cons]
      cases step.fault? <;> rfl

theorem foldl_path : (steps.foldl Step.apply call).path = call.path := by
  induction steps generalizing call with
  | nil => rfl
  | cons step rest ih => rw [List.foldl_cons, ih, apply_path]

end Build

variable {method path : String} {steps : List Step} {config : Config} {failure : Failure}

/-- The first fault survives every later step. -/
theorem build_refused : (build method path steps).refused = firstFault? steps :=
  (foldl_refused _ steps).trans Option.none_or

theorem build_path : (build method path steps).path = path := foldl_path _ steps

/-! ## What is decided about a call -/

theorem validate_build_fault {fault : HeaderFault} (hfault : firstFault? steps = some fault) :
    (build method path steps).validate = .error (.invalidRequest fault.message) := by
  rw [validate, build_refused, hfault]

theorem validate_build (hlegal : firstFault? steps = none) :
    (build method path steps).validate = .ok () := by
  rw [validate, build_refused, hlegal]

theorem target_invalid {call : ApiCall} (hvalidate : call.validate = .error failure) :
    call.target config = .error failure := by
  rw [target, hvalidate]
  rfl

theorem repeatableTarget_invalid {call : ApiCall} (hvalidate : call.validate = .error failure) :
    call.repeatableTarget config = .error failure := by
  rw [repeatableTarget, hvalidate]
  rfl

theorem target_build (hlegal : firstFault? steps = none) :
    (build method path steps).target config = config.requestUrl path := by
  rw [target, validate_build hlegal, build_path]
  rfl

theorem repeatableTarget_build (hlegal : firstFault? steps = none) :
    (build method path steps).repeatableTarget config =
      if (build method path steps).body.isStream then .error streamRefused
      else config.requestUrl path := by
  cases hstream : (build method path steps).body.isStream with
  | true =>
      rw [repeatableTarget_stream hstream, validate_build hlegal]
      rfl
  | false =>
      rw [repeatableTarget_eq hstream, target_build hlegal]
      rfl

end ApiCall

/-! ## Paths that lead away -/

/-- The path is a whole URL, and one that cannot be read or has not the origin of the
API. -/
def Config.LeadsAway (config : Config) (path : String) : Prop :=
  isAbsolute path.toList = true ∧
    ((∃ fault, Url.parse path = .error fault) ∨
      ∃ target api, Url.parse path = .ok target ∧ config.rootUrl = .ok api ∧
        ¬target.SharesOrigin api)

theorem Url.sameOrigin_iff {a b : Url} : a.sameOrigin b = true ↔ a.SharesOrigin b := by
  refine ⟨sharesOrigin_of_sameOrigin, ?_⟩
  rintro ⟨origin, ha, hb⟩
  simp [sameOrigin, ha, hb]

theorem Config.requestUrl_of_leadsAway {config : Config} {path : String}
    (haway : config.LeadsAway path) :
    ∃ message, config.requestUrl path = .error (.invalidRequest message) := by
  obtain ⟨habsolute, ⟨fault, hparse⟩ | ⟨target, api, hparse, hroot, horigin⟩⟩ := haway
  · rw [requestUrl, if_pos habsolute, hparse]
    exact ⟨_, rfl⟩
  · have hforeign : target.sameOrigin api = false :=
      Bool.eq_false_iff.2 fun hsame => horigin (Url.sameOrigin_iff.1 hsame)
    rw [requestUrl, if_pos habsolute, hparse, hroot]
    simp only [bind, Except.bind, hforeign, Bool.false_eq_true, if_false]
    exact ⟨_, rfl⟩

theorem Config.requestUrl_of_not_leadsAway {config : Config} {path : String} {api : Url}
    (hroot : config.rootUrl = .ok api) (hnear : ¬config.LeadsAway path) :
    ∃ url, config.requestUrl path = .ok url := by
  cases habsolute : isAbsolute path.toList with
  | false =>
      rw [requestUrl, habsolute]
      exact ⟨_, rfl⟩
  | true =>
      cases hparse : Url.parse path with
      | error fault => exact absurd ⟨habsolute, .inl ⟨fault, hparse⟩⟩ hnear
      | ok target =>
          have hsame : target.sameOrigin api = true := by
            by_contra hforeign
            exact hnear ⟨habsolute, .inr ⟨target, api, hparse, hroot,
              fun horigin => hforeign (Url.sameOrigin_iff.2 horigin)⟩⟩
          rw [requestUrl, if_pos habsolute, hparse, hroot]
          simp only [bind, Except.bind, hsame, if_true]
          exact ⟨_, rfl⟩

/-! ## Calls before their first question -/

/-- The program begins with a question. -/
def Program.Starts {α : Type} (query : Query) (program : Program α) : Prop :=
  ∃ next, program = .ask query next

theorem Program.Starts.bind {α β : Type} {query : Query} {program : Program α}
    (hstarts : program.Starts query) (f : α → Program β) : (program.bind f).Starts query := by
  obtain ⟨next, rfl⟩ := hstarts
  exact ⟨_, rfl⟩

section Starts

variable {config : Config} {call : ApiCall} {url : String}

theorem Store.getToken_starts : (getToken config).run.Starts .lock := ⟨_, rfl⟩

theorem Delivery.attempt_starts (retriesLeft : Nat) :
    (attempt config call url retriesLeft).run.Starts .lock :=
  Store.getToken_starts.bind _

theorem Delivery.dispatch_starts (htarget : call.target config = .ok url) :
    (dispatch config call).run.Starts .lock := by
  rw [dispatch_eq htarget]
  exact (attempt_starts _).bind _

theorem Delivery.execute_starts (htarget : call.repeatableTarget config = .ok url) :
    (execute config call).run.Starts .lock := by
  -- Whatever follows the first attempt, the call begins with the token for it.
  have hround (retriesLeft : Nat) (rest : Call Reply) :
      (round config call url retriesLeft rest).run.Starts .lock :=
    (attempt_starts _).bind _
  have hrange : 0 + 1 ≠ UInt32.size := by decide
  rw [execute, htarget]
  change (attempts config call url (call.retries config).toNat 0).run.Starts .lock
  cases (call.retries config).toNat with
  | zero =>
      rw [attempts_zero hrange]
      exact hround 0 _
  | succ retriesLeft =>
      rw [attempts_succ hrange]
      exact hround _ _

theorem Client.send_starts (htarget : call.target config = .ok url) :
    (send config call).run.Starts .lock := by
  have hround (remaining : Nat) (rest : Call Reply) :
      (round config call remaining rest).run.Starts .lock := by
    rw [round_run]
    exact (Delivery.dispatch_starts ((ApiCall.target_withMaxRetries _).trans htarget)).bind _
  unfold send
  split
  · exact Delivery.dispatch_starts ((ApiCall.target_withMaxRetries 0).trans htarget)
  · rename_i copied hcopy
    obtain rfl := ApiCall.eq_of_copy? hcopy
    cases (call.retries config).toNat with
    | zero =>
        rw [dispatches_zero]
        exact hround 0 _
    | succ remaining =>
        rw [dispatches_succ]
        exact hround _ _

end Starts

theorem Client.send_refused {config : Config} {call : ApiCall} {failure : Failure}
    (htarget : call.target config = .error failure) : send config call = throw failure := by
  unfold send
  split
  · exact Delivery.dispatch_refused ((ApiCall.target_withMaxRetries 0).trans htarget)
  · rename_i copied hcopy
    obtain rfl := ApiCall.eq_of_copy? hcopy
    exact dispatches_refused htarget _

namespace Operation

variable {config : Config} {operation : Operation} {failure : Failure} {url : String}

/-- The URL of the call that an operation makes, or why there is none.  It is decided before
the operation asks anything, unless the operation is given up. -/
def route? (config : Config) : Operation → Option (Except Failure String)
  | execute call => some (call.repeatableTarget config)
  | dispatch call | cancellable call none | send call => some (call.target config)
  | _ => none

theorem perform_refused (hroute : operation.route? config = some (.error failure)) :
    (operation.perform config).run = .done (.error failure) := by
  cases operation with
  | execute call =>
      have htarget : call.repeatableTarget config = .error failure := Option.some.inj hroute
      simp only [perform, Delivery.execute, htarget]
      rfl
  | dispatch call =>
      have hdispatch : Delivery.dispatch config call = throw failure :=
        Delivery.dispatch_refused (Option.some.inj hroute)
      simp only [perform, hdispatch]
      rfl
  | cancellable call cancelled =>
      cases cancelled with
      | some questions => cases hroute
      | none =>
          have hdispatch : Delivery.dispatch config call = throw failure :=
            Delivery.dispatch_refused (Option.some.inj hroute)
          simp only [perform, Delivery.dispatchUnlessCancelled, hdispatch]
          rfl
  | send call =>
      have hsend : Client.send config call = throw failure :=
        Client.send_refused (Option.some.inj hroute)
      simp only [perform, hsend]
      rfl
  | _ => cases hroute

/-- With a URL an operation begins with the lock, since it needs a token. -/
theorem perform_starts (hroute : operation.route? config = some (.ok url)) :
    (operation.perform config).run.Starts .lock := by
  have hmap {made : Call Reply} (hmade : made.run.Starts .lock) :
      (Result.reply <$> made).run.Starts .lock := by
    rw [map_eq_pure_bind]
    exact hmade.bind _
  cases operation with
  | execute call => exact hmap (Delivery.execute_starts (Option.some.inj hroute))
  | dispatch call => exact hmap (Delivery.dispatch_starts (Option.some.inj hroute))
  | cancellable call cancelled =>
      cases cancelled with
      | some questions => cases hroute
      | none => exact hmap (Delivery.dispatch_starts (Option.some.inj hroute))
  | send call => exact hmap (Client.send_starts (Option.some.inj hroute))
  | _ => cases hroute

/-- What decides about a call: only an execution has to be able to repeat it. -/
theorem route_of_call {call : ApiCall} (hcall : operation.call? = some call)
    (hruns : operation.RunsToEnd) :
    operation ≠ .execute call ∧ operation.route? config = some (call.target config) ∨
      operation = .execute call ∧
        operation.route? config = some (call.repeatableTarget config) := by
  cases operation with
  | execute made =>
      cases hcall
      exact .inr ⟨rfl, rfl⟩
  | cancellable made cancelled =>
      cases cancelled with
      | some questions => exact hruns.elim
      | none =>
          cases hcall
          exact .inl ⟨nofun, rfl⟩
  | dispatch made | send made =>
      cases hcall
      exact .inl ⟨nofun, rfl⟩
  | _ => cases hcall

/-- The operation fails at once: nothing is asked, so nothing is sent and what is stored
stays. -/
structure Refused {σ : Type} (operation : Operation) (config : Config) (failure : Failure)
    (backend : Backend σ) (world : World σ) : Prop where
  silent : (operation.perform config).run.events backend world = []
  fails : ((operation.perform config).run.run backend world).1 = some (.error failure)
  sent : ((operation.perform config).run.run backend world).2.sent = world.sent
  stored :
    ((operation.perform config).run.run backend world).2.credential = world.credential

theorem refused_of_route {σ : Type} {backend : Backend σ} {world : World σ}
    (hroute : operation.route? config = some (.error failure)) :
    operation.Refused config failure backend world := by
  constructor <;> rw [perform_refused hroute] <;> rfl

section Build

variable {method path : String} {steps : List ApiCall.Step}
  (hcall : operation.call? = some (.build method path steps)) (hruns : operation.RunsToEnd)
include hcall hruns

theorem route_of_fault {fault : HeaderFault} (hfault : ApiCall.firstFault? steps = some fault) :
    operation.route? config = some (.error (.invalidRequest fault.message)) := by
  have hvalidate : (ApiCall.build method path steps).validate =
      .error (.invalidRequest fault.message) := ApiCall.validate_build_fault hfault
  rcases route_of_call hcall hruns with ⟨-, hroute⟩ | ⟨-, hroute⟩
  · rw [hroute, ApiCall.target_invalid hvalidate]
  · rw [hroute, ApiCall.repeatableTarget_invalid hvalidate]

theorem route_of_away (hlegal : ApiCall.firstFault? steps = none)
    (haway : config.LeadsAway path) :
    ∃ message, operation.route? config = some (.error (.invalidRequest message)) := by
  obtain ⟨message, hpath⟩ := Config.requestUrl_of_leadsAway haway
  rcases route_of_call hcall hruns with ⟨-, hroute⟩ | ⟨-, hroute⟩
  · rw [hroute, ApiCall.target_build hlegal, hpath]
    exact ⟨message, rfl⟩
  · rw [hroute, ApiCall.repeatableTarget_build hlegal, hpath]
    split
    · exact ⟨_, rfl⟩
    · exact ⟨message, rfl⟩

/-- Nothing else is refused: any other call takes the lock first. -/
theorem starts_unless_refused (hvalid : config.validate = .ok ())
    (hlegal : ApiCall.firstFault? steps = none) (hnear : ¬config.LeadsAway path)
    (hbody : operation = .execute (.build method path steps) →
      (ApiCall.build method path steps).body.isStream = false) :
    (operation.perform config).run.Starts .lock := by
  obtain ⟨api, hroot, -⟩ := Config.rootUrl_of_validate hvalid
  obtain ⟨url, hpath⟩ := Config.requestUrl_of_not_leadsAway hroot hnear
  rcases route_of_call hcall hruns with ⟨-, hroute⟩ | ⟨hexecute, hroute⟩
  · rw [ApiCall.target_build hlegal, hpath] at hroute
    exact perform_starts hroute
  · rw [ApiCall.repeatableTarget_build hlegal, hbody hexecute, hpath] at hroute
    exact perform_starts hroute

end Build

/-- **A refused call touches nothing.**  Whatever the steps that built a call are, if one
of them had a header that is not legal, each operation that makes the call fails with the
message of the first such step.  Otherwise a stream is not executed, and a path that leads
away from the API is not followed.  In none of these cases is anything asked, whatever is
stored. -/
theorem refused_touches_nothing {σ : Type} (config : Config) (method path : String)
    (steps : List ApiCall.Step) (operation : Operation)
    (hcall : operation.call? = some (.build method path steps))
    (hruns : operation.RunsToEnd) (backend : Backend σ) (world : World σ) :
    (∀ fault, ApiCall.firstFault? steps = some fault →
      operation.Refused config (.invalidRequest fault.message) backend world) ∧
    (ApiCall.firstFault? steps = none →
      (ApiCall.build method path steps).body.isStream = true →
      operation = .execute (.build method path steps) →
        operation.Refused config ApiCall.streamRefused backend world) ∧
    (ApiCall.firstFault? steps = none → config.LeadsAway path →
      ∃ message, operation.Refused config (.invalidRequest message) backend world) := by
  refine ⟨fun fault hfault => ?_, fun hlegal hstream hexecute => ?_, fun hlegal haway => ?_⟩
  · exact refused_of_route (route_of_fault hcall hruns hfault)
  · apply refused_of_route
    rw [hexecute, route?, ApiCall.repeatableTarget_build hlegal, if_pos hstream]
  · obtain ⟨message, hroute⟩ := route_of_away hcall hruns hlegal haway
    exact ⟨message, refused_of_route hroute⟩

/-- An expired credential is stored, and a call with two bad headers is sent after it was
copied; one with a stream is executed, and one to another port is dispatched. -/
theorem refused_touches_nothing_expired :
    let config : Config :=
      { apiUrl := "https://api.test/v1", login := ⟨"user", "secret", "id", "key"⟩ }
    let script : Rehearsal.Script := ⟨[]⟩
    let world : World Rehearsal.Stage :=
      { outside := ⟨.epoch, []⟩, credential := ⟨"old", some .first, some "again", none⟩ }
    let faulty : List ApiCall.Step :=
      [.header "x-trace" [49], .copy, .header "X-Note" [10], .header "no name" [], .text "late"]
    let streamed : List ApiCall.Step := [.text "early", .withBody (.stream [[1]]), .copy]
    (Operation.send (.build "POST" "items" faulty)).Refused config
        (.invalidRequest (HeaderFault.value "x-note").message) script.backend world ∧
      (Operation.execute (.build "POST" "items" streamed)).Refused config
        ApiCall.streamRefused script.backend world ∧
      ∃ message, (Operation.dispatch (.build "GET" "https://api.test:80/v1" [])).Refused config
        (.invalidRequest message) script.backend world := by
  intro config script world faulty streamed
  have hfault : ApiCall.firstFault? faulty = some (.value "x-note") := by decide +kernel
  have hlegal : ApiCall.firstFault? streamed = none := rfl
  have hstream : (ApiCall.build "POST" "items" streamed).body.isStream = true := rfl
  have hvalid : config.validate = .ok () := by decide +kernel +zetaReduce
  have herror : (config.requestUrl "https://api.test:80/v1").toBool = false := by
    decide +kernel +zetaReduce
  -- A path that does not lead away would have a URL.
  have haway : config.LeadsAway "https://api.test:80/v1" := by
    obtain ⟨api, hroot, -⟩ := Config.rootUrl_of_validate hvalid
    by_contra hnear
    obtain ⟨url, hurl⟩ := Config.requestUrl_of_not_leadsAway hroot hnear
    rw [hurl] at herror
    cases herror
  clear_value config script world faulty streamed
  exact ⟨(refused_touches_nothing config "POST" "items" faulty (.send _) rfl trivial
      script.backend world).1 _ hfault,
    (refused_touches_nothing config "POST" "items" streamed (.execute _) rfl trivial
      script.backend world).2.1 hlegal hstream rfl,
    (refused_touches_nothing config "GET" _ [] (.dispatch _) rfl trivial
      script.backend world).2.2 rfl haway⟩

end Operation
end BearerClient
