import BearerClient.Delivery
import BearerClient.Proofs.Store.Grant
import BearerClient.Proofs.Text.Utf8

/-!
# The bearer of a call

A call on the wire has one value for the bearer token, whatever its caller
put there, and that value stands for one token.
-/

namespace BearerClient

namespace Wire.Request

/-- The only bearer that the request carries is this token. -/
def Bears (request : Wire.Request) (token : String) : Prop :=
  ∃ bearer, ApiCall.bearerValue token = .ok bearer ∧
    request.headers.values "authorization" = [bearer]

end Wire.Request

namespace ApiCall

theorem bearerValue_eq_ok {token : String} {bearer : HeaderValue}
    (hbearer : bearerValue token = .ok bearer) :
    bearer = { octets := Text.utf8 ("Bearer " ++ token), sensitive := true } := by
  unfold bearerValue HeaderValue.ofText? HeaderValue.ofOctets? at hbearer
  split at hbearer
  · rename_i value hvalue
    rw [Option.ite_none_right_eq_some] at hvalue
    obtain ⟨-, hvalue⟩ := hvalue
    rw [← Except.ok.inj hbearer, ← Option.some.inj hvalue]
  · cases hbearer

theorem bearerValue_injective {token token' : String} {bearer : HeaderValue}
    (htoken : bearerValue token = .ok bearer)
    (htoken' : bearerValue token' = .ok bearer) : token = token' := by
  have hoctets := bearerValue_eq_ok htoken
  rw [bearerValue_eq_ok htoken', HeaderValue.mk.injEq, Text.utf8_append,
    Text.utf8_append, List.append_cancel_left_eq] at hoctets
  exact (Text.utf8_injective hoctets.1).symm

/-- The headers of the caller and the media types that are added. -/
def typedHeaders (call : ApiCall) : Headers :=
  let asked := if call.raw then call.headers
    else call.headers.insert "accept" Config.jsonType
  if call.jsonBody then asked.insertIfAbsent "content-type" Config.jsonType
  else asked

/-- The headers of a call before the bearer is added. -/
def openHeaders (call : ApiCall) (config : Config) : Except Failure Headers :=
  if call.typedHeaders.contains "user-agent" then .ok call.typedHeaders
  else config.userAgentValue.map (call.typedHeaders.insert "user-agent")

/-- The bearer is inserted last. -/
theorem wireHeaders_eq (call : ApiCall) (config : Config) (token : String) :
    call.wireHeaders config token = do
      let rest ← call.openHeaders config
      let bearer ← bearerValue token
      return rest.insert "authorization" bearer := by
  unfold wireHeaders openHeaders
  change (if call.typedHeaders.contains "user-agent" = true then _ else _) = _
  by_cases huser : call.typedHeaders.contains "user-agent" = true
  · rw [if_pos huser, if_pos huser]
    rfl
  · rw [if_neg huser, if_neg huser]
    rfl

theorem wireHeaders_eq_ok {call : ApiCall} {config : Config} {token : String}
    {headers : Headers} (hheaders : call.wireHeaders config token = .ok headers) :
    ∃ rest bearer, call.openHeaders config = .ok rest ∧
      bearerValue token = .ok bearer ∧
      headers = rest.insert "authorization" bearer := by
  rw [wireHeaders_eq] at hheaders
  obtain ⟨rest, hrest, hbound⟩ := decided_bind_eq_ok.1 hheaders
  obtain ⟨bearer, hbearer, hwhole⟩ := decided_bind_eq_ok.1 hbound
  exact ⟨rest, bearer, hrest, hbearer, (Except.ok.inj hwhole).symm⟩

theorem assemble_eq_ok {call : ApiCall} {config : Config} {url token : String}
    {request : Wire.Request}
    (hrequest : call.assemble config url token = .ok request) :
    ∃ headers, call.wireHeaders config token = .ok headers ∧
      request = {
        method := call.method
        url
        headers
        body := call.body
        timeout := call.timeout.getD config.requestTimeout } := by
  obtain ⟨headers, hheaders, hwhole⟩ := decided_bind_eq_ok.1 hrequest
  exact ⟨headers, hheaders, (Except.ok.inj hwhole).symm⟩

theorem bears_of_assemble {call : ApiCall} {config : Config}
    {url token : String} {request : Wire.Request}
    (hrequest : call.assemble config url token = .ok request) :
    request.Bears token := by
  obtain ⟨headers, hheaders, rfl⟩ := assemble_eq_ok hrequest
  obtain ⟨rest, bearer, -, hbearer, rfl⟩ := wireHeaders_eq_ok hheaders
  exact ⟨bearer, hbearer, Headers.values_insert_self ..⟩

theorem hasBearer_of_assemble {call : ApiCall} {config : Config}
    {url token : String} {request : Wire.Request}
    (hrequest : call.assemble config url token = .ok request) :
    request.hasBearer = true := by
  obtain ⟨headers, hheaders, rfl⟩ := assemble_eq_ok hrequest
  obtain ⟨rest, bearer, -, -, rfl⟩ := wireHeaders_eq_ok hheaders
  simp [Wire.Request.hasBearer]

end ApiCall

theorem Wire.Request.Bears.hasBearer {request : Wire.Request} {token : String}
    (htoken : request.Bears token) : request.hasBearer = true := by
  obtain ⟨bearer, -, hvalues⟩ := htoken
  unfold Headers.values at hvalues
  rw [Wire.Request.hasBearer, Headers.contains_eq_lookup]
  cases hlookup : request.headers.fields.lookup "authorization" with
  | none => simp [hlookup] at hvalues
  | some values => rfl

/-- A request bears one token at most. -/
theorem Wire.Request.Bears.unique {request : Wire.Request} {token token' : String}
    (htoken : request.Bears token) (htoken' : request.Bears token') :
    token = token' := by
  obtain ⟨bearer, hbearer, hvalues⟩ := htoken
  obtain ⟨bearer', hbearer', hvalues'⟩ := htoken'
  rw [hvalues, List.cons.injEq] at hvalues'
  obtain ⟨rfl, -⟩ := hvalues'
  exact ApiCall.bearerValue_injective hbearer hbearer'

end BearerClient
