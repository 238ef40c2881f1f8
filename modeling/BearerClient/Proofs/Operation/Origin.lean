import BearerClient.Proofs.Config.Validation
import BearerClient.Proofs.Delivery.Bearer
import BearerClient.Proofs.Operation.Kept
import BearerClient.Proofs.Operation.Session
import BearerClient.Proofs.Url.Joined
import BearerClient.Rehearsal.Script

/-!
# Where the token goes

Only calls carry the bearer token, and a call goes to the URL that its path leads to.
A path that is a whole URL is compared with the root of the API.  Any other path is put
below the root and not looked at again; it does not have to be, since it cannot change
the authority of the root.  So the token stays on the origin of the API, whatever the
paths of the calls are.
-/

namespace BearerClient

/-! ## Paths -/

namespace Config

variable {config : Config} {api url : Url} {path target : String}

theorem rootUrl_of_validate (hvalid : config.validate = .ok ()) :
    ∃ api, config.rootUrl = .ok api ∧ Url.IsWeb api.scheme := by
  obtain ⟨api, hroot, hweb⟩ := (validate_eq_ok_iff.1 hvalid).root
  exact ⟨api, rootUrl_eq_ok_iff.2 hroot, hweb⟩

theorem sharesOrigin_of_endpointUrl (hroot : config.rootUrl = .ok api)
    (hweb : Url.IsWeb api.scheme) (hrelative : isAbsolute path.toList = false)
    (hurl : Url.parse (config.endpointUrl path) = .ok url) : url.SharesOrigin api := by
  have hslashes : ∀ c ∈ (config.root.toList.reverse.takeWhile isSlash).reverse,
      c = '/' := by
    intro c hc
    have hslash : isSlash c = true := List.mem_takeWhile_imp (List.mem_reverse.1 hc)
    simpa [isSlash] using hslash
  have hsplit : (config.root.toList.reverse.dropWhile isSlash).reverse ++
      (config.root.toList.reverse.takeWhile isSlash).reverse = config.root.toList := by
    rw [← List.reverse_append, List.takeWhile_append_dropWhile, List.reverse_reverse]
  have hparse := rootUrl_eq_ok_iff.1 hroot
  rw [Url.parse, ← hsplit] at hparse
  rw [endpointUrl, hrelative, Url.parse] at hurl
  simp only [Bool.false_eq_true, if_false, String.toList_ofList] at hurl
  exact Url.sharesOrigin_joined hslashes hparse hweb hurl

/-- Every path that is accepted leads to the origin of the API. -/
theorem sharesOrigin_of_requestUrl (hroot : config.rootUrl = .ok api)
    (hweb : Url.IsWeb api.scheme) (htarget : config.requestUrl path = .ok target)
    (hurl : Url.parse target = .ok url) : url.SharesOrigin api := by
  unfold requestUrl at htarget
  cases habsolute : isAbsolute path.toList with
  | false =>
      rw [habsolute, if_neg Bool.false_ne_true] at htarget
      rw [← Except.ok.inj htarget] at hurl
      exact sharesOrigin_of_endpointUrl hroot hweb habsolute hurl
  | true =>
      rw [habsolute, if_pos rfl, hroot] at htarget
      split at htarget
      case h_1 => cases htarget
      case h_2 found hparse =>
        simp only [bind, Except.bind] at htarget
        split at htarget
        case isTrue hsame =>
          rw [← Except.ok.inj htarget, hparse] at hurl
          rw [← Except.ok.inj hurl]
          exact Url.sharesOrigin_of_sameOrigin hsame
        case isFalse => cases htarget

end Config

/-! ## Requests -/

/-- The request asks for a credential, renews one or revokes one. -/
def Wire.Request.IsGrant (request : Wire.Request) (config : Config) : Prop :=
  ∃ endpoint grant, config.grantRequest endpoint grant = .ok request

/-- What an operation may send: a grant, or a call at a URL that it is about. -/
def Operation.Sends (operation : Operation) (config : Config)
    (request : Wire.Request) : Prop :=
  request.IsGrant config ∨
    ∃ call url token, operation.Targets config url ∧
      ApiCall.assemble call config url token = .ok request

/-- If the question is a request, it is one that the operation may send. -/
def Query.SendsFor (config : Config) (operation : Operation) (query : Query) : Prop :=
  ∀ request, query = .send request → operation.Sends config request

section Sends

variable {config : Config} {operation : Operation} {log : List Event}
  {stored : Credential}

theorem Query.sendsFor_of_idle {query : Query} (hidle : query.IsIdle) :
    query.SendsFor config operation := by
  rintro request rfl
  exact hidle.elim

theorem Query.sendsFor_replace {credential : Credential} :
    (Query.replace credential).SendsFor config operation := by
  rintro request ⟨⟩

theorem Query.sendsFor_grant {endpoint : Endpoint} {grant : Json.Value}
    {request : Wire.Request} (hrequest : config.grantRequest endpoint grant = .ok request) :
    (Query.send request).SendsFor config operation := by
  rintro sent ⟨⟩
  exact .inl ⟨endpoint, grant, hrequest⟩

theorem Operation.keepsSends :
    Kept config (operation.Targets config)
      (fun _ _ query => query.SendsFor config operation) (fun _ _ => True) where
  idle query _ hidle := ⟨Query.sendsFor_of_idle hidle, fun _ _ => trivial⟩
  exchange {log stored} exchange _ _ := by
    rw [Store.perform_run]
    cases hrequest : config.grantRequest exchange.endpoint
        (exchange.grant config.login) with
    | error failure => exact ⟨trivial, by simp⟩
    | ok request =>
        refine ⟨Query.sendsFor_grant hrequest, fun answer _ => ?_⟩
        exact Rests.settle trivial (Query.sendsFor_of_idle trivial)
          (fun _ => trivial) fun _ _ _ => ⟨Query.sendsFor_replace, trivial⟩
  deliver call url request _ _ htarget hrequest := by
    refine ⟨?_, fun _ => trivial⟩
    rintro sent ⟨⟩
    exact .inr ⟨call, url, _, htarget, hrequest⟩

theorem Store.revoke_sends :
    (Store.revoke config).run.Obeys
      (fun _ _ query => query.SendsFor config operation)
      (Rests (fun _ _ => True) fun _ _ => True) log stored :=
  Operation.keepsSends.revoke trivial
    (fun _ _ hrequest => ⟨Query.sendsFor_grant hrequest, fun _ => trivial⟩)
    fun _ => ⟨Query.sendsFor_replace, trivial⟩

end Sends

/-- A session sends grants and the calls of its operations, and nothing else. -/
theorem Session.sends {σ : Type} {config : Config} {backend : Backend σ}
    {operations : List Operation} {start : World σ} {entry : Operation × Event}
    (hentry : entry ∈ Session.log config backend operations start)
    {request : Wire.Request} (hquery : entry.2.query = .send request) :
    entry.1.Sends config request := by
  obtain ⟨-, hasks⟩ := Session.invariant config backend operations start
    (fun _ operation _ query => query.SendsFor config operation) (fun _ _ => True)
    [] trivial fun operation _ past stored _ =>
      (operation.keepsSends.performAll trivial Store.revoke_sends
        (fun _ _ _ _ _ _ => trivial) operation fun _ htarget => htarget).mono
        (fun _ _ _ hask => hask) fun _ _ _ _ => trivial
  obtain ⟨before, after, hsplit⟩ := List.append_of_mem hentry
  exact hasks before entry.1 entry.2 after hsplit request hquery

/-- What holds of a request as to the bearer token. -/
structure Operation.KeepsToken (operation : Operation) (config : Config) (api : Url)
    (request : Wire.Request) : Prop where
  /-- a request with a token is a call, at the URL that its own path leads to -/
  called : request.hasBearer = true → operation.Targets config request.url
  /-- and that URL has the origin of the API -/
  origin : request.hasBearer = true →
    ∀ url, Url.parse request.url = .ok url → url.SharesOrigin api
  /-- the requests without a token are the grants -/
  grant : request.hasBearer = false ↔ request.IsGrant config

theorem Operation.Sends.keepsToken {operation : Operation} {config : Config} {api : Url}
    {request : Wire.Request} (hsends : operation.Sends config request)
    (hroot : config.rootUrl = .ok api) (hweb : Url.IsWeb api.scheme) :
    operation.KeepsToken config api request := by
  rcases hsends with hgrant | ⟨call, url, token, htarget, hrequest⟩
  · obtain ⟨endpoint, grant, hrequest⟩ := hgrant
    have hbearer := Config.grantRequest_hasBearer hrequest
    refine ⟨?_, ?_, fun _ => ⟨endpoint, grant, hrequest⟩, fun _ => hbearer⟩ <;>
      rw [hbearer] <;> intro h <;> cases h
  · have hbearer := ApiCall.hasBearer_of_assemble hrequest
    obtain ⟨headers, -, rfl⟩ := ApiCall.assemble_eq_ok hrequest
    refine ⟨fun _ => htarget, fun _ found hurl => ?_, ?_, ?_⟩
    · obtain ⟨made, -, hpath⟩ := htarget
      exact Config.sharesOrigin_of_requestUrl hroot hweb hpath hurl
    · rw [hbearer]
      intro h
      cases h
    · rintro ⟨endpoint, grant, hgrant⟩
      exact Config.grantRequest_hasBearer hgrant

/-- **The token stays on the origin of the API.**  In every session of a client whose
configuration is valid, whatever is stored at its start, a request with a bearer token
goes to the URL that the path of the operation's own call leads to; if that is a URL at
all, its origin is that of the API's root.  All other requests are grants, and no grant
carries a token: a request to the endpoint of a grant has one only if a caller addresses a
call there. -/
theorem Session.token_stays {σ : Type} (config : Config)
    (hvalid : config.validate = .ok ()) (backend : Backend σ)
    (operations : List Operation) (start : World σ) :
    ∃ api, config.rootUrl = .ok api ∧
      ∀ entry ∈ Session.log config backend operations start,
        ∀ request, entry.2.query = .send request →
          entry.1.KeepsToken config api request := by
  obtain ⟨api, hroot, hweb⟩ := Config.rootUrl_of_validate hvalid
  exact ⟨api, hroot, fun entry hentry request hquery =>
    (Session.sends hentry hquery).keepsToken hroot hweb⟩

/-- A root with a user and a control at its end, and calls whose paths would lead
elsewhere. -/
theorem Session.token_stays_astray :
    let config : Config :=
      { apiUrl := "HTTPS:/\\user@api.test:443/v1/\x01",
        login := ⟨"user", "secret", "id", "key"⟩ }
    let script : Rehearsal.Script := ⟨[
      ("app", [.token (some "first") none (some (.after 3600000))])]⟩
    let world : World Rehearsal.Stage := { outside := ⟨.epoch, []⟩ }
    let operations : List Operation :=
      [.execute (.get "@evil.test"), .dispatch (.get "\\\\evil.test"),
        .send (.get "Http://evil.test")]
    config.validate = .ok () ∧
      ∃ api, config.rootUrl = .ok api ∧
        ∀ entry ∈ Session.log config script.backend operations world,
          ∀ request, entry.2.query = .send request →
            entry.1.KeepsToken config api request := by
  intro config script world operations
  have hvalid : config.validate = .ok () := by decide +kernel +zetaReduce
  have hstays := token_stays config hvalid script.backend operations world
  clear_value config script world operations
  exact ⟨hvalid, hstays⟩

/-- The path of a call may be that of an endpoint for grants, and the call carries the
token there. -/
theorem Session.token_at_endpoint :
    let config : Config :=
      { apiUrl := "https://api.test", login := ⟨"user", "secret", "id", "key"⟩ }
    let script : Rehearsal.Script := ⟨[
      ("app", [.token (some "first") none (some (.after 3600000))])]⟩
    let world : World Rehearsal.Stage := { outside := ⟨.epoch, []⟩ }
    config.validate = .ok () ∧
      ∃ entry ∈ Session.log config script.backend [.execute (.get "app")] world,
        ∃ request, entry.2.query = .send request ∧
          request.url = config.endpointUrl Endpoint.app.name ∧
          request.hasBearer = true := by
  intro config script world
  refine ⟨by decide +kernel +zetaReduce, ?_⟩
  have hsent : (Session.log config script.backend [.execute (.get "app")] world).any
      (fun entry => entry.2.query.request?.any fun request =>
        request.url == config.endpointUrl Endpoint.app.name && request.hasBearer) =
      true := by
    decide +kernel +zetaReduce
  obtain ⟨entry, hentry, hsent⟩ := List.any_eq_true.1 hsent
  obtain ⟨request, hrequest, hbearer⟩ := (Option.any_eq_true _ _).1 hsent
  rw [Bool.and_eq_true, beq_iff_eq] at hbearer
  refine ⟨entry, hentry, request, ?_, hbearer.1, hbearer.2⟩
  unfold Query.request? at hrequest
  split at hrequest
  case h_1 sent hquery => rw [hquery, Option.some.inj hrequest]
  case h_2 => cases hrequest

end BearerClient
