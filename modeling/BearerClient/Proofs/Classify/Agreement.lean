import BearerClient.Classify
import BearerClient.Proofs.Text.ReadBack

/-!
# One table for both classifiers

The API and the credential endpoints are answered by different classifiers, but each response
has one verdict and both classifiers only put it into their own words.  So they agree on what a
success is and on what a failure says; they differ in whether a 401 may be retried, and in that
only the API keeps the start of a failed response's body.
-/

namespace BearerClient

namespace ErrorDetails

theorem isBlank_fallbackMessage (status : UInt16) :
    Text.isBlank (fallbackMessage status) = false := by
  have hmem : 'H' ∈ (fallbackMessage status).toList := by
    unfold fallbackMessage
    simp
  exact List.all_eq_false.2 ⟨'H', hmem, by decide⟩

/-- A failed response always has something to say. -/
theorem isBlank_ofBody (status : UInt16) (isJson : Bool) (body : Bytes) :
    Text.isBlank (ofBody status isJson body).message = false := by
  unfold ofBody
  cases hmessage : (payloadOf isJson body).message.filter fun text => !Text.isBlank text with
  | none => simpa [hmessage] using isBlank_fallbackMessage status
  | some message => simpa [hmessage] using (Option.filter_eq_some_iff.1 hmessage).2

end ErrorDetails

namespace Wire.Response

/-! ## Verdicts -/

/-- What a response comes to, before it is said to anyone. -/
inductive Verdict where
  /-- the body was lost -/
  | lost (status : UInt16) (source : TransportFault)
  | accepted (reply : Reply)
  /-- a 401 -/
  | rejected (details : ErrorDetails)
  | failed (status : UInt16) (details : ErrorDetails) (body : Bytes)

/-- The verdict as it is said of a call of the API. -/
def Verdict.outcome (retriesLeft : Nat) : Verdict → Outcome
  | lost status source => .fatal (.transport (some status) source)
  | accepted reply => .success reply
  | rejected details =>
    match retriesLeft with
    | 0 => .fatal (.unauthorized details.message details.code)
    | _ + 1 => .retryable details
  | failed status details body => .fatal (.http status details.message details.code (snippet body))

/-- The verdict as it is said of a call of a credential endpoint. -/
def Verdict.result : Verdict → Except Failure Reply
  | lost status source => .error (.transport (some status) source)
  | accepted reply => .ok reply
  | rejected details => .error (.unauthorized details.message details.code)
  | failed status details _ =>
    .error (.authentication (some status) details.message details.code)

variable (response : Response) (retriesLeft : Nat)

theorem isSuccess_iff {status : UInt16} : isSuccess status = true ↔ 200 ≤ status ∧ status < 400 := by
  simp [isSuccess]

def verdict : Verdict :=
  match response.body with
  | .error source => .lost response.status source
  | .ok body =>
    if isSuccess response.status then .accepted ⟨response.status, response.headers, body⟩
    else if response.status = 401 then .rejected (response.details body)
    else .failed response.status (response.details body) body

theorem classify_eq : response.classify retriesLeft = response.verdict.outcome retriesLeft := by
  unfold classify verdict
  cases response.body with
  | error source => rfl
  | ok body =>
      dsimp only
      split
      case isTrue => rfl
      split
      case isTrue => cases retriesLeft <;> rfl
      case isFalse => rfl

theorem classifyCredential_eq : response.classifyCredential = response.verdict.result := by
  unfold classifyCredential verdict
  cases response.body with
  | error source => rfl
  | ok body =>
      dsimp only
      split
      case isTrue => rfl
      split
      case isTrue => rfl
      case isFalse => rfl

variable {response}

theorem verdict_of_succeeds {body : Bytes} (hbody : response.body = .ok body)
    (hsuccess : isSuccess response.status = true) :
    response.verdict = .accepted ⟨response.status, response.headers, body⟩ := by
  rw [verdict, hbody]
  exact if_pos hsuccess

theorem verdict_of_rejected {body : Bytes} (hbody : response.body = .ok body)
    (hrejected : response.status = 401) :
    response.verdict = .rejected (response.details body) := by
  rw [verdict, hbody, hrejected]
  rfl

theorem verdict_of_failed {body : Bytes} (hbody : response.body = .ok body)
    (hfails : isSuccess response.status = false) (hother : response.status ≠ 401) :
    response.verdict = .failed response.status (response.details body) body := by
  rw [verdict, hbody]
  exact (if_neg (Bool.not_eq_true _ ▸ hfails)).trans (if_neg hother)

theorem verdict_eq_accepted_iff {reply : Reply} :
    response.verdict = .accepted reply ↔ ∃ body, response.body = .ok body ∧
      isSuccess response.status = true ∧ reply = ⟨response.status, response.headers, body⟩ := by
  constructor
  · intro hverdict
    unfold verdict at hverdict
    split at hverdict
    case h_1 => cases hverdict
    case h_2 body hbody =>
      split at hverdict
      case isTrue hsuccess =>
        cases hverdict
        exact ⟨body, hbody, hsuccess, rfl⟩
      case isFalse => split at hverdict <;> cases hverdict
  · rintro ⟨body, hbody, hsuccess, rfl⟩
    exact verdict_of_succeeds hbody hsuccess

theorem verdict_eq_lost_iff {status : UInt16} {source : TransportFault} :
    response.verdict = .lost status source ↔
      response.body = .error source ∧ status = response.status := by
  constructor
  · intro hverdict
    unfold verdict at hverdict
    split at hverdict
    case h_1 other hbody =>
      cases hverdict
      exact ⟨hbody, rfl⟩
    case h_2 =>
      split at hverdict
      case isTrue => cases hverdict
      case isFalse => split at hverdict <;> cases hverdict
  · rintro ⟨hbody, rfl⟩
    rw [verdict, hbody]

/-! ## The start of a body -/

/-- What is kept of a body. -/
structure Keeps (body : Bytes) (kept : Option String) : Prop where
  none_iff : kept = none ↔ body = []
  /-- as many characters as there are, up to 512, of the body as it reads -/
  start : ∀ text, kept = some text → text.toList = (Text.Utf8.decodeLossy body).toList.take
    (min 512 (Text.Utf8.decodeLossy body).length)
  /-- a text that is short enough is kept as it is -/
  whole : ∀ text : String, body = Text.utf8 text → body ≠ [] → text.length ≤ 512 → kept = some text

theorem snippet_keeps (body : Bytes) : Keeps body (snippet body) := by
  refine ⟨?_, fun text hkept => ?_, fun text hbody hsome hshort => ?_⟩
  · cases body <;> simp [snippet]
  · cases body with
    | nil => cases hkept
    | cons octet rest =>
        cases hkept
        rw [String.toList_ofList, ← String.length_toList, ← List.take_eq_take_min]
        rfl
  · have htake : text.toList.take snippetLength = text.toList := List.take_of_length_le hshort
    rw [snippet, if_neg (by simpa using hsome), hbody, Text.Utf8.decodeLossy_utf8, htake,
      String.ofList_toList]

/-! ## Agreement -/

/-- The two classifiers say the same of a response. -/
structure ClassifiedAlike (response : Response) (retriesLeft : Nat) : Prop where
  success : ∀ reply, response.classifyCredential = .ok reply ↔
    response.classify retriesLeft = .success reply
  success_iff : ∀ reply, response.classifyCredential = .ok reply ↔
    ∃ body, response.body = .ok body ∧ (200 ≤ response.status ∧ response.status < 400) ∧
      reply = ⟨response.status, response.headers, body⟩
  unauthorized : ∀ message code,
    response.classifyCredential = .error (.unauthorized message code) ↔
      response.classify 0 = .fatal (.unauthorized message code)
  retryable : ∀ message code,
    response.classifyCredential = .error (.unauthorized message code) ↔
      response.classify (retriesLeft + 1) = .retryable ⟨message, code⟩
  failed : ∀ status message code,
    response.classifyCredential = .error (.authentication (some status) message code) ↔
      ∃ kept, response.classify retriesLeft = .fatal (.http status message code kept)
  transport : ∀ status source,
    response.classifyCredential = .error (.transport status source) ↔
      response.classify retriesLeft = .fatal (.transport status source)
  transport_iff : ∀ status source,
    response.classifyCredential = .error (.transport status source) ↔
      response.body = .error source ∧ status = some response.status
  /-- there is a message for every failure with a body, and the API keeps the start of the body -/
  failing : ∀ body, response.body = .ok body →
    ¬(200 ≤ response.status ∧ response.status < 400) →
    ∃ message code, Text.isBlank message = false ∧
      (response.status = 401 →
        response.classifyCredential = .error (.unauthorized message code)) ∧
      (response.status ≠ 401 →
        response.classifyCredential =
          .error (.authentication (some response.status) message code) ∧
        ∃ kept, response.classify retriesLeft =
          .fatal (.http response.status message code kept) ∧ Keeps body kept)

theorem classifiedAlike (response : Response) (retriesLeft : Nat) :
    response.ClassifiedAlike retriesLeft := by
  constructor
  all_goals simp only [classify_eq, classifyCredential_eq]
  case success =>
    cases response.verdict with
    | rejected details => cases retriesLeft <;> simp [Verdict.result, Verdict.outcome]
    | _ => simp [Verdict.result, Verdict.outcome]
  case success_iff =>
    intro reply
    simp only [← isSuccess_iff, ← verdict_eq_accepted_iff]
    cases response.verdict <;> simp [Verdict.result]
  case unauthorized =>
    cases response.verdict <;> simp [Verdict.result, Verdict.outcome]
  case retryable =>
    cases response.verdict with
    | rejected details =>
        obtain ⟨held, found⟩ := details
        simp [Verdict.result, Verdict.outcome]
    | _ => simp [Verdict.result, Verdict.outcome]
  case failed =>
    cases response.verdict with
    | rejected details => cases retriesLeft <;> simp [Verdict.result, Verdict.outcome]
    | _ => simp [Verdict.result, Verdict.outcome]
  case transport =>
    cases response.verdict with
    | rejected details => cases retriesLeft <;> simp [Verdict.result, Verdict.outcome]
    | _ => simp [Verdict.result, Verdict.outcome]
  case transport_iff =>
    intro status source
    constructor
    · intro hresult
      cases hverdict : response.verdict with
      | lost held fault =>
          rw [hverdict] at hresult
          cases hresult
          obtain ⟨hbody, rfl⟩ := verdict_eq_lost_iff.1 hverdict
          exact ⟨hbody, rfl⟩
      | _ => simp [hverdict, Verdict.result] at hresult
    · rintro ⟨hbody, rfl⟩
      rw [verdict_eq_lost_iff.2 ⟨hbody, rfl⟩]
      rfl
  case failing =>
    intro body hbody hfails
    have hfails : isSuccess response.status = false := by
      rwa [← isSuccess_iff, Bool.not_eq_true] at hfails
    refine ⟨(response.details body).message, (response.details body).code,
      ErrorDetails.isBlank_ofBody .., fun hrejected => ?_, fun hother => ?_⟩
    · rw [verdict_of_rejected hbody hrejected]
      rfl
    · rw [verdict_of_failed hbody hfails hother]
      exact ⟨rfl, _, rfl, snippet_keeps body⟩

end Wire.Response
end BearerClient
