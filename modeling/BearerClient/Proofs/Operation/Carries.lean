import BearerClient.Proofs.Delivery.Bearer
import BearerClient.Proofs.Operation.Kept

/-!
# What requests carry

Every request of a client carries a secret of the stored credential: a call its
token, a grant of a refresh token its refresh token.  A first exchange carries
the login instead.  What a request carries can be read off the request.
-/

namespace BearerClient

namespace Wire.Request

/-- The request carries the tokens of a credential: a grant of the refresh token
its refresh token, and a call its token, which is not blank. -/
def Carries (request : Request) (config : Config) (credential : Credential) : Prop :=
  match config.endpoint? request with
  | none => request.Bears credential.token ∧ credential.isBlank = false
  | some .app => config.grantRequest .app config.login.grant = .ok request
  | some endpoint => ∃ refreshToken, credential.refreshToken = some refreshToken ∧
      config.grantRequest endpoint (config.login.refreshGrant refreshToken) =
        .ok request

/-- The request is a grant of a refresh token, for a renewal or a revocation. -/
def Grants (request : Request) (config : Config) (refreshToken : String) : Prop :=
  config.grantRequest .refresh (config.login.refreshGrant refreshToken) =
      .ok request ∨
    config.grantRequest .revoke (config.login.refreshGrant refreshToken) =
      .ok request

variable {request : Request} {config : Config} {credential : Credential}

theorem carries_of_exchange {exchange : Exchange}
    (hsuits : exchange.Suits credential)
    (hrequest : config.grantRequest exchange.endpoint
      (exchange.grant config.login) = .ok request) :
    request.Carries config credential := by
  unfold Carries
  rw [Config.endpoint?_grantRequest hrequest]
  cases exchange with
  | acquire => exact hrequest
  | renew refreshToken => exact ⟨refreshToken, hsuits, hrequest⟩

theorem carries_of_revocation {refreshToken : String}
    (hrefresh : credential.refreshToken = some refreshToken)
    (hrequest : config.grantRequest .revoke
      (config.login.refreshGrant refreshToken) = .ok request) :
    request.Carries config credential := by
  unfold Carries
  rw [Config.endpoint?_grantRequest hrequest]
  exact ⟨refreshToken, hrefresh, hrequest⟩

theorem endpoint?_of_assemble {call : ApiCall} {url token : String}
    (hrequest : call.assemble config url token = .ok request) :
    config.endpoint? request = none := by
  rw [Config.endpoint?, ApiCall.hasBearer_of_assemble hrequest, if_pos rfl]

theorem carries_of_assemble {call : ApiCall} {url : String}
    (hheld : credential.isBlank = false)
    (hrequest : call.assemble config url credential.token = .ok request) :
    request.Carries config credential := by
  unfold Carries
  rw [endpoint?_of_assemble hrequest]
  exact ⟨ApiCall.bears_of_assemble hrequest, hheld⟩

theorem Carries.token_eq {token : String}
    (hcarries : request.Carries config credential) (hbears : request.Bears token) :
    token = credential.token ∧ credential.isBlank = false := by
  unfold Carries at hcarries
  rw [Config.endpoint?, hbears.hasBearer, if_pos rfl] at hcarries
  exact ⟨hbears.unique hcarries.1, hcarries.2⟩

theorem Carries.refreshToken_eq {refreshToken : String}
    (hcarries : request.Carries config credential)
    (hgrants : request.Grants config refreshToken) :
    credential.refreshToken = some refreshToken := by
  unfold Carries at hcarries
  rcases hgrants with hrequest | hrequest <;>
    rw [Config.endpoint?_grantRequest hrequest] at hcarries <;>
    obtain ⟨held, hheld, hsent⟩ := hcarries <;>
    rw [hheld, Config.refreshGrant_unique hsent hrequest]

end Wire.Request
end BearerClient
