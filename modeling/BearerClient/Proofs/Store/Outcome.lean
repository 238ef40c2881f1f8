import BearerClient.Proofs.Store.Exchange
import BearerClient.Proofs.Store.Grant
import BearerClient.Rehearsal.Script

/-!
# What an exchange comes to

The answer to an exchange is judged in four stages: the transport, the status, the body and
the token in it.  An answer that passes all of them issues a credential, which is stored.
Any other is refused by the first stage that it does not pass, and what is stored stays.
Every answer is either issued or refused, and in one way only.
-/

namespace BearerClient.Store

/-- What the body of a good reply says.  A blank one says nothing. -/
inductive Says (body : Bytes) : TokenAnswer → Prop where
  | nothing (hblank : body.all Reply.isBlankOctet = true) : Says body {}
  | answer {answer : TokenAnswer} (hfilled : body.all Reply.isBlankOctet = false)
      (hdecoded : TokenAnswer.decoder.run body = .ok answer) : Says body answer

/-- The status counts as success. -/
def Accepts (status : UInt16) : Prop := 200 ≤ status ∧ status < 400

/-- An answer that arrives whole, with a good status and with a token that can be used,
issues the credential that it describes. -/
inductive Issues (now : Instant) :
    Except TransportFault Wire.Response → Credential → Prop where
  | intro {response : Wire.Response} {body : Bytes} {token : String} {expiresAt : Instant}
      {refreshToken : Option String} (hbody : response.body = .ok body)
      (hstatus : Accepts response.status) (hfilled : body.all Reply.isBlankOctet = false)
      (hdecoded : TokenAnswer.decoder.run body =
        .ok ⟨some token, some expiresAt, refreshToken⟩)
      (htoken : Text.isBlank token = false) :
      Issues now (.ok response)
        ⟨token, some expiresAt, Credential.nonBlank refreshToken, some now⟩

/-- Why an answer of an endpoint is refused. -/
inductive Refuses (endpoint : Endpoint) :
    Except TransportFault Wire.Response → Failure → Prop where
  | lost (source : TransportFault) : Refuses endpoint (.error source) (.transport none source)
  /-- whatever the status is -/
  | unreadable {response : Wire.Response} {source : TransportFault}
      (hbody : response.body = .error source) :
      Refuses endpoint (.ok response) (.transport (some response.status) source)
  | unauthorized {response : Wire.Response} {body : Bytes} (hbody : response.body = .ok body)
      (hstatus : response.status = 401) :
      Refuses endpoint (.ok response)
        (.unauthorized (response.details body).message (response.details body).code)
  | rejected {response : Wire.Response} {body : Bytes} (hbody : response.body = .ok body)
      (hfailed : ¬Accepts response.status) (hstatus : response.status ≠ 401) :
      Refuses endpoint (.ok response) (.authentication (some response.status)
        (response.details body).message (response.details body).code)
  | malformed {response : Wire.Response} {body : Bytes} {fault : Json.Fault}
      (hbody : response.body = .ok body) (hstatus : Accepts response.status)
      (hfilled : body.all Reply.isBlankOctet = false)
      (hdecoded : TokenAnswer.decoder.run body = .error fault) :
      Refuses endpoint (.ok response) (.authentication (some response.status)
        ("Malformed " ++ endpoint.name ++ " response: " ++
          (Failure.decode response.status
            ("Invalid JSON response: " ++ fault.message)).message) none)
  | tokenless {response : Wire.Response} {body : Bytes} {answer : TokenAnswer}
      (hbody : response.body = .ok body) (hstatus : Accepts response.status)
      (hsaid : Says body answer)
      (htoken : ∀ token, answer.token = some token → Text.isBlank token = true) :
      Refuses endpoint (.ok response)
        (.authentication none "Credential endpoint returned an empty token" none)
  | undated {response : Wire.Response} {body : Bytes} {token : String}
      {refreshToken : Option String} (hbody : response.body = .ok body)
      (hstatus : Accepts response.status)
      (hsaid : Says body ⟨some token, none, refreshToken⟩)
      (htoken : Text.isBlank token = false) :
      Refuses endpoint (.ok response)
        (.authentication none "Credential endpoint returned no expires_at" none)

/-- The credential that an answer to an exchange makes. -/
def judged (endpoint : Endpoint) (answer : Except TransportFault Wire.Response)
    (now : Instant) : Except Failure Credential :=
  (received endpoint answer).bind fun token => Credential.ofAnswer token now

section Judged

variable {endpoint : Endpoint} {answer : Except TransportFault Wire.Response}
  {now : Instant} {response : Wire.Response} {body : Bytes} {credential : Credential}
  {failure : Failure}

theorem accepts_iff {status : UInt16} :
    Accepts status ↔ Wire.Response.isSuccess status = true := by
  rw [Accepts, Wire.Response.isSuccess, Bool.and_eq_true, decide_eq_true_iff,
    decide_eq_true_iff]

/-- A reply that arrives whole and with a good status is judged by its body. -/
theorem received_of_accepts (hbody : response.body = .ok body)
    (hstatus : Accepts response.status) :
    received endpoint (.ok response) =
      readAnswer endpoint ⟨response.status, response.headers, body⟩ := by
  rw [received, Wire.Response.classifyCredential, hbody]
  simp only [accepts_iff.1 hstatus, if_true, Except.bind]

theorem received_of_says {said : TokenAnswer} (hbody : response.body = .ok body)
    (hstatus : Accepts response.status) (hsaid : Says body said) :
    received endpoint (.ok response) = .ok said := by
  rw [received_of_accepts hbody hstatus, readAnswer, Reply.json]
  cases hsaid with
  | nothing hblank =>
      simp only [Reply.isBlank, hblank, if_true]
      rfl
  | answer hfilled hdecoded =>
      simp only [Reply.isBlank, hfilled, hdecoded, Bool.false_eq_true, if_false]
      rfl

theorem nonBlank_some {text : String} (htext : Text.isBlank text = false) :
    Credential.nonBlank (some text) = some text := by
  simp [Credential.nonBlank, htext]

theorem nonBlank_eq_none {text : Option String}
    (htext : ∀ held, text = some held → Text.isBlank held = true) :
    Credential.nonBlank text = none := by
  rw [Credential.nonBlank, Option.filter_eq_none_iff]
  intro held hheld
  simp [htext held hheld]

theorem judged_of_issues (hissues : Issues now answer credential) :
    judged endpoint answer now = .ok credential := by
  cases hissues with
  | intro hbody hstatus hfilled hdecoded htoken =>
      rw [judged, received_of_says hbody hstatus (.answer hfilled hdecoded)]
      simp only [Except.bind, Credential.ofAnswer, nonBlank_some htoken]

theorem judged_of_refuses (hrefuses : Refuses endpoint answer failure) :
    judged endpoint answer now = .error failure := by
  cases hrefuses with
  | lost source => rfl
  | unreadable hbody =>
      rw [judged, received, Wire.Response.classifyCredential, hbody]
      rfl
  | @unauthorized response body hbody hstatus =>
      have hfailed : ¬Wire.Response.isSuccess response.status = true := by
        rw [hstatus]
        decide
      rw [judged, received, Wire.Response.classifyCredential, hbody]
      simp only [if_neg hfailed, if_pos hstatus, Except.bind]
  | @rejected response body hbody hfailed hstatus =>
      have hfailed : ¬Wire.Response.isSuccess response.status = true :=
        fun hsuccess => hfailed (accepts_iff.2 hsuccess)
      rw [judged, received, Wire.Response.classifyCredential, hbody]
      simp only [if_neg hfailed, if_neg hstatus, Except.bind]
  | malformed hbody hstatus hfilled hdecoded =>
      rw [judged, received_of_accepts hbody hstatus, readAnswer, Reply.json]
      simp only [Reply.isBlank, hfilled, hdecoded, Bool.false_eq_true, if_false, Except.bind,
        BearerClient.Store.malformed]
  | tokenless hbody hstatus hsaid htoken =>
      rw [judged, received_of_says hbody hstatus hsaid]
      simp only [Except.bind, Credential.ofAnswer, nonBlank_eq_none htoken]
      rfl
  | undated hbody hstatus hsaid htoken =>
      rw [judged, received_of_says hbody hstatus hsaid]
      simp only [Except.bind, Credential.ofAnswer, nonBlank_some htoken]
      rfl

/-- What a good reply says can be used, or there is no token in it, or no expiry. -/
theorem issues_or_refuses_of_says {said : TokenAnswer} (hbody : response.body = .ok body)
    (hstatus : Accepts response.status) (hsaid : Says body said) :
    (∃ credential, Issues now (.ok response) credential) ∨
      ∃ failure, Refuses endpoint (.ok response) failure := by
  by_cases htoken : ∀ token, said.token = some token → Text.isBlank token = true
  · exact .inr ⟨_, .tokenless hbody hstatus hsaid htoken⟩
  obtain ⟨token, hnot⟩ := Classical.not_forall.1 htoken
  obtain ⟨htoken, hheld⟩ := Classical.not_imp.1 hnot
  have hheld : Text.isBlank token = false := Bool.eq_false_iff.2 hheld
  obtain ⟨_, expiresAt, refreshToken⟩ := said
  cases htoken
  cases expiresAt with
  | none => exact .inr ⟨_, .undated hbody hstatus hsaid hheld⟩
  | some expiresAt =>
      cases hsaid with
      | answer hfilled hdecoded =>
          exact .inl ⟨_, .intro hbody hstatus hfilled hdecoded hheld⟩

/-- Every answer issues a credential or is refused. -/
theorem issues_or_refuses (endpoint : Endpoint)
    (answer : Except TransportFault Wire.Response) (now : Instant) :
    (∃ credential, Issues now answer credential) ∨
      ∃ failure, Refuses endpoint answer failure := by
  cases answer with
  | error source => exact .inr ⟨_, .lost source⟩
  | ok response =>
      cases hbody : response.body with
      | error source => exact .inr ⟨_, .unreadable hbody⟩
      | ok body =>
          by_cases hstatus : Accepts response.status
          case neg =>
            by_cases hunauthorized : response.status = 401
            · exact .inr ⟨_, .unauthorized hbody hunauthorized⟩
            · exact .inr ⟨_, .rejected hbody hstatus hunauthorized⟩
          cases hfilled : body.all Reply.isBlankOctet with
          | true => exact issues_or_refuses_of_says hbody hstatus (.nothing hfilled)
          | false =>
              cases hdecoded : TokenAnswer.decoder.run body with
              | error fault => exact .inr ⟨_, .malformed hbody hstatus hfilled hdecoded⟩
              | ok said =>
                  exact issues_or_refuses_of_says hbody hstatus (.answer hfilled hdecoded)

theorem judged_eq_ok_iff :
    judged endpoint answer now = .ok credential ↔ Issues now answer credential := by
  refine ⟨fun hjudged => ?_, judged_of_issues⟩
  rcases issues_or_refuses endpoint answer now with ⟨issued, hissues⟩ | ⟨failure, hrefuses⟩
  · rw [judged_of_issues hissues] at hjudged
    exact Except.ok.inj hjudged ▸ hissues
  · rw [judged_of_refuses hrefuses] at hjudged
    cases hjudged

theorem judged_eq_error_iff :
    judged endpoint answer now = .error failure ↔ Refuses endpoint answer failure := by
  refine ⟨fun hjudged => ?_, judged_of_refuses⟩
  rcases issues_or_refuses endpoint answer now with ⟨issued, hissues⟩ | ⟨fault, hrefuses⟩
  · rw [judged_of_issues hissues] at hjudged
    cases hjudged
  · have hrefused : judged endpoint answer now = .error fault := judged_of_refuses hrefuses
    rw [hrefused] at hjudged
    exact Except.error.inj hjudged ▸ hrefuses

/-- An endpoint is complained about as a transport, for the login or for what it answers. -/
theorem Refuses.kind (hrefuses : Refuses endpoint answer failure) :
    (∃ status source, failure = .transport status source) ∨
      (∃ message code, failure = .unauthorized message code) ∨
      ∃ status message code, failure = .authentication status message code := by
  cases hrefuses with
  | lost | unreadable => exact .inl ⟨_, _, rfl⟩
  | unauthorized => exact .inr (.inl ⟨_, _, rfl⟩)
  | rejected | malformed | tokenless | undated => exact .inr (.inr ⟨_, _, _, rfl⟩)

end Judged

/-! ## The exchange -/

/-- What an exchange ends with, and what it leaves, once its answer was judged. -/
structure Settles (endpoint : Endpoint) (answer : Except TransportFault Wire.Response)
    (now : Instant) (before : Credential) (result : Except Failure Unit)
    (after : Credential) : Prop where
  succeeds : result = .ok () ↔ ∃ credential, Issues now answer credential
  /-- the credential that is issued is stored -/
  stored : ∀ credential, Issues now answer credential → after = credential
  fails : ∀ failure, result = .error failure ↔ Refuses endpoint answer failure
  /-- a failure changes nothing -/
  kept : ∀ failure, result = .error failure → after = before
  kind : ∀ failure, result = .error failure →
    (∃ status source, failure = .transport status source) ∨
      (∃ message code, failure = .unauthorized message code) ∨
      ∃ status message code, failure = .authentication status message code

section Exchange

variable {σ : Type} {endpoint : Endpoint} {answer : Except TransportFault Wire.Response}
  {now : Instant} {before : Credential}

theorem settles_of_issues {credential : Credential} (hissues : Issues now answer credential) :
    Settles endpoint answer now before (.ok ()) credential where
  succeeds := ⟨fun _ => ⟨credential, hissues⟩, fun _ => rfl⟩
  stored other hother := by
    have hissued : judged endpoint answer now = .ok credential := judged_of_issues hissues
    rw [judged_of_issues hother] at hissued
    exact (Except.ok.inj hissued).symm
  fails failure := by
    refine ⟨fun hfailed => (nomatch hfailed), fun hrefuses => ?_⟩
    exact nomatch (judged_of_issues hissues).symm.trans (judged_of_refuses hrefuses)
  kept _ hfailed := nomatch hfailed
  kind _ hfailed := nomatch hfailed

theorem settles_of_refuses {failure : Failure} (hrefuses : Refuses endpoint answer failure) :
    Settles endpoint answer now before (.error failure) before where
  succeeds := by
    refine ⟨fun hsucceeds => (nomatch hsucceeds), fun ⟨credential, hissues⟩ => ?_⟩
    exact nomatch (judged_of_issues hissues).symm.trans (judged_of_refuses hrefuses)
  stored credential hissues :=
    nomatch (judged_of_issues hissues).symm.trans (judged_of_refuses hrefuses)
  fails other := by
    refine ⟨fun hfailed => Except.error.inj hfailed ▸ hrefuses, fun hother => ?_⟩
    have hrefused : judged endpoint answer now = .error failure :=
      judged_of_refuses hrefuses
    rw [judged_of_refuses hother] at hrefused
    exact Except.error.inj hrefused ▸ rfl
  kept _ _ := rfl
  kind other hfailed := (Except.error.inj hfailed ▸ hrefuses).kind

/-- The clock is read once the answer was found good, and the result is its judgement. -/
theorem settle_settles (endpoint : Endpoint) (answer : Except TransportFault Wire.Response)
    (backend : Backend σ) (world : World σ) :
    ∃ result final,
      (settle (received endpoint answer)).run backend world = (some result, final) ∧
        final.sent = world.sent ∧
        Settles endpoint answer (backend.now world.outside).1 world.credential result
          final.credential := by
  cases hreceived : received endpoint answer with
  | error failure =>
      have hjudged : judged endpoint answer (backend.now world.outside).1 =
          .error failure := by
        rw [judged, hreceived]
        rfl
      exact ⟨.error failure, world, rfl, rfl,
        settles_of_refuses (judged_eq_error_iff.1 hjudged)⟩
  | ok said =>
      have hjudged : judged endpoint answer (backend.now world.outside).1 =
          Credential.ofAnswer said (backend.now world.outside).1 := by
        rw [judged, hreceived]
        rfl
      simp only [settle, Program.run, World.answer]
      cases hissued : Credential.ofAnswer said (backend.now world.outside).1 with
      | error failure =>
          exact ⟨.error failure, _, rfl, rfl,
            settles_of_refuses (judged_eq_error_iff.1 (hjudged.trans hissued))⟩
      | ok credential =>
          exact ⟨.ok (), _, rfl, rfl,
            settles_of_issues (judged_eq_ok_iff.1 (hjudged.trans hissued))⟩

end Exchange

/-- **The outcome of an exchange.**  An exchange of either kind sends its one request, and
the answer decides: the exchange succeeds exactly if the answer issues a credential, which
is then stored with the instant at which the exchange was completed, and it fails exactly as
the answer is refused, with what is stored left alone. -/
theorem exchange_settles {σ : Type} (config : Config) (hgrant : config.CanGrant)
    (exchange : Exchange) (backend : Backend σ) (world : World σ) :
    ∃ request,
      config.grantRequest exchange.endpoint (exchange.grant config.login) = .ok request ∧
        ∃ result final,
          (perform config exchange).run.run backend world = (some result, final) ∧
            final.sent = world.sent ++ [request] ∧
            Settles exchange.endpoint (backend.send world.outside request).1
              (backend.now (backend.send world.outside request).2).1 world.credential
              result final.credential := by
  obtain ⟨request, hrequest⟩ :=
    hgrant.grantRequest exchange.endpoint (exchange.grant config.login)
  refine ⟨request, hrequest, ?_⟩
  rw [perform_run, hrequest]
  exact settle_settles _ _ backend (world.answer backend (.send request)).2

/-- A renewal is answered with a token between blanks, a blank refresh token and an expiry
in the past. -/
theorem exchange_settles_padded :
    let config : Config :=
      { apiUrl := "https://api.test", login := ⟨"user", "secret", "id", "key"⟩ }
    let script : Rehearsal.Script := ⟨[
      ("refresh", [.token (some " second ") (some "  ") (some (.fixed 5))])]⟩
    let world : World Rehearsal.Stage :=
      { outside := ⟨.epoch, []⟩, credential := ⟨"first", some .last, some "again", none⟩ }
    let exchange := Exchange.renew "again"
    config.CanGrant ∧
      ∃ request,
        config.grantRequest exchange.endpoint (exchange.grant config.login) = .ok request ∧
          ∃ result final,
            (perform config exchange).run.run script.backend world =
                (some result, final) ∧
              final.sent = world.sent ++ [request] ∧
              Settles exchange.endpoint (script.backend.send world.outside request).1
                (script.backend.now (script.backend.send world.outside request).2).1
                world.credential result final.credential := by
  intro config script world exchange
  have hgrant : config.CanGrant := Config.canGrant_of_validOctets (by decide +kernel)
  exact ⟨hgrant, exchange_settles config hgrant exchange script.backend world⟩

end BearerClient.Store
