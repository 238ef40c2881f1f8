import BearerClient.Proofs.Json.Escape
import BearerClient.Proofs.Program.Calls
import BearerClient.Proofs.Wire.Header
import BearerClient.Store

/-!
# Grants on the wire

A request without a bearer token is a grant, and its URL names the endpoint
that it is for.  A grant can be built for every endpoint or for none, as the
user agent is a header value or not.
-/

namespace BearerClient

/-- The request carries a bearer token. -/
def Wire.Request.hasBearer (request : Wire.Request) : Bool :=
  request.headers.contains "authorization"

/-- The grants for two refresh tokens differ. -/
theorem Login.refreshGrant_text_injective {login : Login}
    {refreshToken refreshToken' : String}
    (htext : (login.refreshGrant refreshToken).text =
      (login.refreshGrant refreshToken').text) :
    refreshToken = refreshToken' := by
  simp only [Json.Value.text, String.ofList_inj, refreshGrant, Json.Value.chars,
    Json.Value.memberChars, Json.Write.separated, Json.Write.string,
    List.cons_append, List.append_assoc, List.cons.injEq, true_and,
    List.append_cancel_left_eq, List.nil_append] at htext
  exact String.toList_inj.1 (Json.Write.flatMap_escaped_inj htext).1

namespace Config

variable {config : Config} {endpoint : Endpoint} {grant : Json.Value}
  {request : Wire.Request}

theorem endpointUrl_name (config : Config) (endpoint : Endpoint) :
    config.endpointUrl endpoint.name =
      String.ofList ((config.root.toList.reverse.dropWhile isSlash).reverse ++
        '/' :: endpoint.name.toList) := by
  cases endpoint <;> rfl

theorem endpointUrl_injective {first second : Endpoint}
    (hurl : config.endpointUrl first.name = config.endpointUrl second.name) :
    first = second := by
  rw [endpointUrl_name, endpointUrl_name, String.ofList_inj,
    List.append_cancel_left_eq, List.cons.injEq] at hurl
  cases first <;> cases second <;> first | rfl | exact absurd hurl.2 (by decide)

/-- The endpoint that a grant is sent to. -/
def endpoint? (config : Config) (request : Wire.Request) : Option Endpoint :=
  if request.hasBearer then none
  else [Endpoint.app, .refresh, .revoke].find? fun endpoint =>
    request.url = config.endpointUrl endpoint.name

theorem grantRequest_eq_ok
    (hrequest : config.grantRequest endpoint grant = .ok request) :
    ∃ userAgent, config.userAgentValue = .ok userAgent ∧
      request = {
        method := "POST"
        url := config.endpointUrl endpoint.name
        headers := (((Headers.empty.insert "content-type" jsonType).insert
          "accept" jsonType).insert "user-agent" userAgent)
        body := .text grant.text
        timeout := config.requestTimeout } := by
  obtain ⟨userAgent, huser, hwhole⟩ := decided_bind_eq_ok.1 hrequest
  exact ⟨userAgent, huser, (Except.ok.inj hwhole).symm⟩

theorem grantRequest_url
    (hrequest : config.grantRequest endpoint grant = .ok request) :
    request.url = config.endpointUrl endpoint.name := by
  obtain ⟨userAgent, -, rfl⟩ := grantRequest_eq_ok hrequest
  rfl

theorem grantRequest_body
    (hrequest : config.grantRequest endpoint grant = .ok request) :
    request.body = .text grant.text := by
  obtain ⟨userAgent, -, rfl⟩ := grantRequest_eq_ok hrequest
  rfl

theorem grantRequest_hasBearer
    (hrequest : config.grantRequest endpoint grant = .ok request) :
    request.hasBearer = false := by
  obtain ⟨userAgent, -, rfl⟩ := grantRequest_eq_ok hrequest
  simp [Wire.Request.hasBearer]

theorem endpoint?_grantRequest
    (hrequest : config.grantRequest endpoint grant = .ok request) :
    config.endpoint? request = some endpoint := by
  unfold endpoint?
  rw [grantRequest_hasBearer hrequest, grantRequest_url hrequest]
  cases endpoint with
  | app => simp
  | refresh =>
      have happ : ¬config.endpointUrl Endpoint.refresh.name =
          config.endpointUrl Endpoint.app.name := fun h => by
        cases endpointUrl_injective h
      simp [happ]
  | revoke =>
      have happ : ¬config.endpointUrl Endpoint.revoke.name =
          config.endpointUrl Endpoint.app.name := fun h => by
        cases endpointUrl_injective h
      have hrefresh : ¬config.endpointUrl Endpoint.revoke.name =
          config.endpointUrl Endpoint.refresh.name := fun h => by
        cases endpointUrl_injective h
      simp [happ, hrefresh]

/-- A request grants one refresh token at most. -/
theorem refreshGrant_unique {endpoint' : Endpoint}
    {refreshToken refreshToken' : String}
    (hrequest : config.grantRequest endpoint
      (config.login.refreshGrant refreshToken) = .ok request)
    (hrequest' : config.grantRequest endpoint'
      (config.login.refreshGrant refreshToken') = .ok request) :
    refreshToken = refreshToken' := by
  have hbody := grantRequest_body hrequest
  rw [grantRequest_body hrequest', Body.text.injEq] at hbody
  exact (Login.refreshGrant_text_injective hbody).symm

/-- The client can build the requests that send grants: its user agent is a header
value. -/
def CanGrant (config : Config) : Prop :=
  ∃ userAgent, config.userAgentValue = .ok userAgent

theorem CanGrant.grantRequest (hgrant : config.CanGrant) (endpoint : Endpoint)
    (grant : Json.Value) :
    ∃ request, config.grantRequest endpoint grant = .ok request := by
  obtain ⟨userAgent, huser⟩ := hgrant
  exact ⟨_, by rw [Config.grantRequest, huser]; rfl⟩

theorem canGrant_of_validOctets
    (hvalid : (Text.utf8 config.userAgent).all HeaderValue.validOctet = true) :
    config.CanGrant := by
  rw [CanGrant, userAgentValue, HeaderValue.ofText?, HeaderValue.ofOctets?, if_pos hvalid]
  exact ⟨_, rfl⟩

theorem canGrant_of_grantRequest
    (hrequest : config.grantRequest endpoint grant = .ok request) :
    config.CanGrant := by
  obtain ⟨userAgent, huser, -⟩ := grantRequest_eq_ok hrequest
  exact ⟨userAgent, huser⟩

end Config

/-- The request obtains or renews a token. -/
def Wire.Request.Exchanges (request : Wire.Request) (config : Config) : Prop :=
  config.endpoint? request = some .app ∨ config.endpoint? request = some .refresh

theorem Wire.Request.exchanges_of_grantRequest {config : Config}
    {exchange : Exchange} {grant : Json.Value} {request : Wire.Request}
    (hrequest : config.grantRequest exchange.endpoint grant = .ok request) :
    request.Exchanges config := by
  have hendpoint := Config.endpoint?_grantRequest hrequest
  cases exchange with
  | acquire => exact .inl hendpoint
  | renew refreshToken => exact .inr hendpoint

end BearerClient
