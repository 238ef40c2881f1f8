import BearerClient.Proofs.Json.RoundTrip
import BearerClient.Proofs.Operation.Carries
import BearerClient.Proofs.Operation.Session
import BearerClient.Rehearsal.Script

/-!
# What grants say

A grant is an object of texts, and whoever reads it finds these texts again, whatever characters
they have: no password and no refresh token can add a member to the grant or change another.  Every
request of a session without a bearer token is a grant that says what the endpoint is to know, with
the configured login and the refresh token that is held at that moment.

That a grant cannot be built is up to the user agent of the request alone.
-/

namespace BearerClient

/-- An object that has only texts. -/
def Json.Value.ofTexts (members : List (String × String)) : Json.Value :=
  .object (members.map fun member => (member.1, .string member.2))

theorem Json.Value.ofTexts_fits (members : List (String × String)) :
    (ofTexts members).Fits maxDepth := by
  refine object_fits_iff.2 fun member hmember => ?_
  obtain ⟨text, -, rfl⟩ := List.mem_map.1 hmember
  exact string_fits _

/-- What a grant for an endpoint says, if there is one for what is held. -/
def Login.tells (login : Login) (held : Credential) : Endpoint → Option (List (String × String))
  | .app => some [("username", login.username), ("password", login.password),
      ("client_id", login.clientId), ("client_secret", login.clientSecret)]
  | .refresh | .revoke => held.refreshToken.map fun refreshToken =>
      [("client_id", login.clientId), ("client_secret", login.clientSecret),
        ("refresh_token", refreshToken)]

/-- The body is the text of an object with these members, in this order, and no others. -/
def Wire.Request.Reads (request : Wire.Request) (members : List (String × String)) : Prop :=
  ∃ text, request.body = .text text ∧
    Json.parse (Text.utf8 text) = .ok (Json.Value.ofTexts members)

/-- The request is a grant, and says what is to be said to its endpoint.  Only the grant for a first
credential tells the user name and the password. -/
def Wire.Request.Says (request : Wire.Request) (config : Config) (held : Credential) : Prop :=
  ∃ endpoint members, config.endpoint? request = some endpoint ∧
    config.login.tells held endpoint = some members ∧ request.Reads members ∧
    (endpoint ≠ .app → ∀ member ∈ members, member.1 ≠ "username" ∧ member.1 ≠ "password")

variable {config : Config} {endpoint : Endpoint} {request : Wire.Request} {held : Credential}
  {members : List (String × String)}

theorem Login.tells_names {login : Login} (htells : login.tells held endpoint = some members)
    (happ : endpoint ≠ .app) :
    ∀ member ∈ members, member.1 ≠ "username" ∧ member.1 ≠ "password" := by
  have hgrant : ∃ refreshToken, [("client_id", login.clientId),
      ("client_secret", login.clientSecret), ("refresh_token", refreshToken)] = members := by
    cases endpoint with
    | app => exact absurd rfl happ
    | refresh | revoke =>
        obtain ⟨refreshToken, -, hmembers⟩ := Option.map_eq_some_iff.1 htells
        exact ⟨refreshToken, hmembers⟩
  obtain ⟨refreshToken, rfl⟩ := hgrant
  simp

theorem Login.grant_eq (login : Login) : login.grant =
    .ofTexts [("username", login.username), ("password", login.password),
      ("client_id", login.clientId), ("client_secret", login.clientSecret)] := rfl

theorem Login.refreshGrant_eq (login : Login) (refreshToken : String) :
    login.refreshGrant refreshToken =
      .ofTexts [("client_id", login.clientId), ("client_secret", login.clientSecret),
        ("refresh_token", refreshToken)] := rfl

namespace Config

/-- What is read from a grant is what was written into it. -/
theorem reads_of_grantRequest
    (hrequest : config.grantRequest endpoint (.ofTexts members) = .ok request) :
    request.Reads members :=
  ⟨_, grantRequest_body hrequest, Json.parse_octets (Json.Value.ofTexts_fits members)⟩

theorem says_of_grantRequest (htells : config.login.tells held endpoint = some members)
    (hrequest : config.grantRequest endpoint (.ofTexts members) = .ok request) :
    request.Says config held :=
  ⟨endpoint, members, endpoint?_grantRequest hrequest, htells, reads_of_grantRequest hrequest,
    Login.tells_names htells⟩

/-- Nothing that a grant says keeps its request from being built. -/
theorem grantRequest_eq_error_iff {grant : Json.Value} {failure : Failure} :
    config.grantRequest endpoint grant = .error failure ↔
      config.userAgentValue = .error failure := by
  rw [grantRequest]
  cases config.userAgentValue with
  | error found => simp [bind, Except.bind]
  | ok value =>
      constructor <;> intro hfailure <;> cases hfailure

theorem says_of_refreshGrant {refreshToken : String} (happ : endpoint ≠ .app)
    (hheld : held.refreshToken = some refreshToken)
    (hrequest : config.grantRequest endpoint (config.login.refreshGrant refreshToken) =
      .ok request) :
    request.Says config held := by
  rw [Login.refreshGrant_eq] at hrequest
  refine says_of_grantRequest ?_ hrequest
  cases endpoint with
  | app => exact absurd rfl happ
  | refresh | revoke => rw [Login.tells, hheld, Option.map_some]

theorem says_of_exchange {exchange : Exchange} (hsuits : exchange.Suits held)
    (hrequest : config.grantRequest exchange.endpoint (exchange.grant config.login) =
      .ok request) :
    request.Says config held := by
  cases exchange with
  | acquire =>
      rw [Exchange.grant, Login.grant_eq] at hrequest
      exact says_of_grantRequest rfl hrequest
  | renew refreshToken =>
      have happ : Endpoint.refresh ≠ .app := by decide
      rw [Exchange.grant, Exchange.endpoint] at hrequest
      exact says_of_refreshGrant happ hsuits hrequest

end Config

/-! ## Sessions -/

/-- If the question is a request without a token, it is a grant. -/
def Query.SaysWhatIsHeld (config : Config) (held : Credential) (query : Query) : Prop :=
  ∀ request, query = .send request → request.hasBearer = false → request.Says config held

theorem Query.saysWhatIsHeld_of_idle {query : Query} (hidle : query.IsIdle) :
    query.SaysWhatIsHeld config held := by
  rintro request rfl
  exact hidle.elim

theorem Query.saysWhatIsHeld_replace {credential : Credential} :
    (Query.replace credential).SaysWhatIsHeld config held := by
  rintro request ⟨⟩

theorem Query.saysWhatIsHeld_of_says (hsaid : request.Says config held) :
    (Query.send request).SaysWhatIsHeld config held := by
  rintro sent ⟨⟩ -
  exact hsaid

theorem Operation.keepsGrants (targets : String → Prop) :
    Kept config targets (fun _ stored query => query.SaysWhatIsHeld config stored)
      (fun _ _ => True) where
  idle query _ hidle := ⟨Query.saysWhatIsHeld_of_idle hidle, fun _ _ => trivial⟩
  exchange {log stored} exchange _ hsuits := by
    rw [Store.perform_run]
    cases hrequest : config.grantRequest exchange.endpoint (exchange.grant config.login) with
    | error failure => exact ⟨trivial, by simp⟩
    | ok request =>
        have hsaid := Config.says_of_exchange hsuits hrequest
        refine ⟨Query.saysWhatIsHeld_of_says hsaid, fun answer _ => ?_⟩
        exact Rests.settle trivial (Query.saysWhatIsHeld_of_idle trivial)
          (fun _ => trivial) fun _ _ _ => ⟨Query.saysWhatIsHeld_replace, trivial⟩
  deliver call url request _ _ _ hrequest := by
    refine ⟨?_, fun _ => trivial⟩
    rintro sent ⟨⟩ hbearer
    rw [ApiCall.hasBearer_of_assemble hrequest] at hbearer
    cases hbearer

theorem Operation.perform_grants (operation : Operation) {log : List Event} :
    (operation.perform config).run.Obeys
      (fun _ stored query => query.SaysWhatIsHeld config stored)
      (Rests (fun _ _ => True) fun _ _ => True) log held := by
  have hkept : Kept config (fun _ => True)
      (fun _ stored query => query.SaysWhatIsHeld config stored) fun _ _ => True :=
    keepsGrants _
  have happ : Endpoint.revoke ≠ .app := by decide
  refine hkept.performAll trivial (hkept.revoke trivial (fun _ hheld hrequest => ?_) fun _ => ?_)
    (fun _ _ _ _ _ _ => trivial) operation fun _ _ => trivial
  · exact ⟨Query.saysWhatIsHeld_of_says (Config.says_of_refreshGrant happ hheld hrequest),
      fun _ => trivial⟩
  · exact ⟨Query.saysWhatIsHeld_replace, trivial⟩

/-- **Grants cannot be forged by what they say.**  Whether the request for a grant can be built is
up to the user agent alone.  What is read from it is what was written, for all texts that a login or
a refresh token may have.  And each request of a session without a token is a grant for one of the
endpoints, which tells the configured login and the refresh token that is held, and nothing else. -/
theorem Session.grants_unforged {σ : Type} (config : Config) (backend : Backend σ)
    (operations : List Operation) (start : World σ) :
    (∀ endpoint grant failure, config.grantRequest endpoint grant = .error failure ↔
      config.userAgentValue = .error failure) ∧
    (∀ request, config.grantRequest .app config.login.grant = .ok request →
      request.Reads [("username", config.login.username), ("password", config.login.password),
        ("client_id", config.login.clientId), ("client_secret", config.login.clientSecret)]) ∧
    (∀ endpoint refreshToken request,
      config.grantRequest endpoint (config.login.refreshGrant refreshToken) = .ok request →
      request.Reads [("client_id", config.login.clientId),
        ("client_secret", config.login.clientSecret), ("refresh_token", refreshToken)]) ∧
    ∀ entry ∈ Session.log config backend operations start,
      ∀ request, entry.2.query = .send request → request.hasBearer = false →
        request.Says config entry.2.stored := by
  refine ⟨fun _ _ _ => Config.grantRequest_eq_error_iff, fun _ hrequest => ?_,
    fun _ _ _ hrequest => ?_, fun entry hentry request hquery hbearer => ?_⟩
  · rw [Login.grant_eq] at hrequest
    exact Config.reads_of_grantRequest hrequest
  · rw [Login.refreshGrant_eq] at hrequest
    exact Config.reads_of_grantRequest hrequest
  · obtain ⟨-, hasks⟩ := Session.invariant config backend operations start
      (fun _ _ stored query => query.SaysWhatIsHeld config stored) (fun _ _ => True)
      [] trivial fun operation _ past stored _ =>
        operation.perform_grants.mono (fun _ _ _ hask => hask) fun _ _ _ _ => trivial
    obtain ⟨before, after, hsplit⟩ := List.append_of_mem hentry
    exact hasks before entry.1 entry.2 after hsplit request hquery hbearer

/-- A password that looks like the end of one member and the start of another, and a refresh token
with a quote, a backslash, a brace and a line break. -/
theorem Session.grants_unforged_hostile :
    let config : Config :=
      { apiUrl := "https://api.test",
        login := ⟨"us\"er", "\",\"username\":\"root", "\\", "𝄞\x00"⟩ }
    let script : Rehearsal.Script := ⟨[("app", [.token (some "first")
      (some "\"\\\x7d,\n𝄞") (some (.after 3600000))])]⟩
    let world : World Rehearsal.Stage := { outside := ⟨.epoch, []⟩ }
    ∃ entry ∈ Session.log config script.backend [.acquire, .revoke] world,
      ∃ request, entry.2.query = .send request ∧ config.endpoint? request = some .revoke ∧
        entry.2.stored.refreshToken = some "\"\\\x7d,\n𝄞" ∧
        request.Says config entry.2.stored := by
  intro config script world
  have hsent : (Session.log config script.backend [.acquire, .revoke] world).any
      (fun entry => entry.2.stored.refreshToken == some "\"\\\x7d,\n𝄞" &&
        entry.2.query.request?.any fun request =>
          !request.hasBearer && config.endpoint? request == some .revoke) = true := by
    decide +kernel +zetaReduce
  have hunforged := grants_unforged config script.backend [.acquire, .revoke] world
  clear_value config script world
  obtain ⟨entry, hentry, hsent⟩ := List.any_eq_true.1 hsent
  rw [Bool.and_eq_true, beq_iff_eq] at hsent
  obtain ⟨hheld, hsent⟩ := hsent
  obtain ⟨request, hrequest, hgrant⟩ := (Option.any_eq_true _ _).1 hsent
  rw [Bool.and_eq_true, Bool.not_eq_true', beq_iff_eq] at hgrant
  have hquery : entry.2.query = .send request := by
    unfold Query.request? at hrequest
    split at hrequest
    case h_1 sent hquery => rw [hquery, Option.some.inj hrequest]
    case h_2 => cases hrequest
  exact ⟨entry, hentry, request, hquery, hgrant.2, hheld,
    hunforged.2.2.2 entry hentry request hquery hgrant.1⟩

end BearerClient
