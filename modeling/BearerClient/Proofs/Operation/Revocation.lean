import BearerClient.Proofs.Operation.Completeness

/-!
# Revocation

After a revocation nothing is stored, whatever the backend made of it.  The only
revocation that clears nothing is one whose request cannot be built, for want of
a user agent that is a header value; but a client that cannot build this request
could not build the one for a credential either, so it has none to be cleared.

From then on the first exchange obtains a credential with the login: the refresh
token that was held is gone.
-/

namespace BearerClient

namespace Config

/-- What a client can have stored: nothing, unless it can send grants. -/
def Obtainable (config : Config) (stored : Credential) : Prop :=
  stored = .blank ∨ config.CanGrant

end Config

/-- What is stored before a question and after it could be obtained. -/
def Query.StaysObtainable (config : Config) (stored : Credential) (query : Query) :
    Prop :=
  config.Obtainable stored ∧ config.Obtainable (query.leaves stored)

namespace Store

variable {config : Config} {log : List Event} {stored : Credential}

theorem keepsObtainable :
    Kept config (fun _ => True) (fun _ => Query.StaysObtainable config)
      (fun _ stored => config.Obtainable stored) where
  idle {log stored} query hstored hidle := by
    have hleaves : query.leaves stored = stored := by
      cases query <;> first | rfl | exact hidle.elim
    refine ⟨⟨hstored, ?_⟩, fun _ _ => hstored⟩
    rw [hleaves]
    exact hstored
  exchange {log stored} exchange hstored _ := by
    rw [perform_run]
    cases hrequest : config.grantRequest exchange.endpoint
        (exchange.grant config.login) with
    | error failure => exact ⟨hstored, by simp⟩
    | ok request =>
        have hany : ∀ credential, config.Obtainable credential :=
          fun _ => .inr (Config.canGrant_of_grantRequest hrequest)
        refine ⟨⟨hany _, hany _⟩, fun answer _ => ?_⟩
        exact Rests.settle (hany _) ⟨hany _, hany _⟩ (fun _ => hany _)
          fun _ _ _ => ⟨⟨hany _, hany _⟩, hany _⟩
  deliver call url request hstored _ _ _ := ⟨⟨hstored, hstored⟩, fun _ => hstored⟩

theorem revoke_keepsObtainable (hstored : config.Obtainable stored) :
    (revoke config).run.Obeys (fun _ => Query.StaysObtainable config)
      (Rests (fun _ stored => config.Obtainable stored) fun _ _ => True)
      log stored := by
  refine keepsObtainable.revoke hstored
    (fun hstored _ _ => ⟨⟨hstored, hstored⟩, fun _ => hstored⟩) fun hstored => ?_
  have hblank : config.Obtainable .blank := .inl rfl
  exact ⟨⟨hstored, hblank⟩, hblank⟩

end Store

/-- In every state of a client what is stored could be obtained. -/
theorem Session.obtainable {σ : Type} (config : Config) (backend : Backend σ)
    (outside : σ) (operations : List Operation) :
    config.Obtainable
      (Session.world config backend operations { outside }).credential := by
  obtain ⟨hfinal, -⟩ := Session.invariant config backend operations { outside }
    (fun _ _ => Query.StaysObtainable config)
    (fun _ stored => config.Obtainable stored) [] (.inl rfl)
    fun operation _ past stored hstored =>
      (Store.keepsObtainable.performAll hstored
        (Store.revoke_keepsObtainable hstored)
        (fun _ _ _ _ hquery _ => hquery.2) operation fun _ _ => trivial).mono
        (fun _ _ _ hask => hask) (fun _ _ _ hrests => hrests.1)
  exact hfinal

/-! ## The revocation itself -/

namespace Store

/-- The backend does not confirm a revocation: there is no answer, its body was
lost or its status is none from 200 to 399. -/
def Unconfirmed : Except TransportFault Wire.Response → Prop
  | .error _ => True
  | .ok response => (∃ source, response.body = .error source) ∨
      response.status < 200 ∨ 399 < response.status

theorem not_isSuccess_iff {status : UInt16} :
    Wire.Response.isSuccess status = false ↔ status < 200 ∨ 399 < status := by
  simp only [Wire.Response.isSuccess, Bool.and_eq_false_iff, decide_eq_false_iff_not,
    UInt16.lt_iff_toNat_lt, UInt16.le_iff_toNat_le]
  change (¬200 ≤ status.toNat ∨ ¬status.toNat < 400) ↔
    status.toNat < 200 ∨ 399 < status.toNat
  omega

theorem revoked_error_iff {answer : Except TransportFault Wire.Response} :
    (∃ failure, revoked answer = .error failure) ↔ Unconfirmed answer := by
  cases answer with
  | error source => exact ⟨fun _ => trivial, fun _ => ⟨_, rfl⟩⟩
  | ok response =>
      obtain ⟨status, headers, body⟩ := response
      simp only [revoked, Unconfirmed, ← not_isSuccess_iff,
        Wire.Response.classifyCredential]
      cases body with
      | error source =>
          exact ⟨fun _ => .inl ⟨source, rfl⟩, fun _ => ⟨_, rfl⟩⟩
      | ok body =>
          cases hsuccess : Wire.Response.isSuccess status with
          | true => simp [Except.map]
          | false =>
              refine ⟨fun _ => .inr rfl, fun _ => ?_⟩
              simp only [Bool.false_eq_true, if_false]
              split <;> exact ⟨_, rfl⟩

variable {σ : Type}

/-- What a revocation does in a world, and with what result it ends. -/
inductive Revocation (config : Config) (backend : Backend σ) (world : World σ) :
    Except Failure Unit → World σ → Prop where
  /-- nothing is sent without a refresh token -/
  | unsent (hrefresh : world.credential.refreshToken = none) :
      Revocation config backend world (.ok ()) { world with credential := .blank }
  /-- the refresh token is revoked with one request -/
  | sent {refreshToken : String} {request : Wire.Request}
      {answer : Except TransportFault Wire.Response} {outside : σ}
      {result : Except Failure Unit}
      (hrefresh : world.credential.refreshToken = some refreshToken)
      (hrequest : config.grantRequest .revoke
        (config.login.refreshGrant refreshToken) = .ok request)
      (hanswer : backend.send world.outside request = (answer, outside))
      (hresult : (∃ failure, result = .error failure) ↔ Unconfirmed answer) :
      Revocation config backend world result
        { outside, credential := .blank, sent := world.sent ++ [request] }

variable {config : Config} {backend : Backend σ} {world final : World σ}
  {result : Except Failure Unit}

theorem revocation_run (backend : Backend σ)
    (hstored : config.Obtainable world.credential) :
    ∃ result final,
      (revoke config).run.run backend world = (some result, final) ∧
        Revocation config backend world result final := by
  rw [revoke_run]
  simp only [Program.run, World.answer]
  cases hrefresh : world.credential.refreshToken with
  | none => exact ⟨.ok (), _, rfl, .unsent hrefresh⟩
  | some refreshToken =>
      have hgrant : config.CanGrant := by
        rcases hstored with hblank | hgrant
        · rw [hblank] at hrefresh
          cases hrefresh
        · exact hgrant
      obtain ⟨request, hrequest⟩ := hgrant.grantRequest .revoke
        (config.login.refreshGrant refreshToken)
      simp only [hrequest]
      exact ⟨_, _, rfl, .sent hrefresh hrequest rfl revoked_error_iff⟩

theorem Revocation.credential_eq
    (hrevocation : Revocation config backend world result final) :
    final.credential = .blank := by
  cases hrevocation <;> rfl

end Store

/-! ## After a revocation -/

/-- Nothing is stored before the first exchange of a log. -/
def Event.StartsBlank (config : Config) (log : List Event) (stored : Credential) :
    Prop :=
  (∀ event ∈ log, ∀ request, event.query = .send request →
    ¬request.Exchanges config) → stored = .blank

/-- What may be asked: before the first exchange nothing is stored, nothing is
written and nothing is renewed. -/
structure Query.StartsBlank (config : Config) (log : List Event)
    (stored : Credential) (query : Query) : Prop where
  before : Event.StartsBlank config log stored
  after : Event.StartsBlank config log (query.leaves stored)
  renews : ∀ request, query = .send request →
    config.endpoint? request = some .refresh → stored ≠ .blank

section StartsBlank

variable {config : Config} {past log : List Event} {stored : Credential}

theorem Event.StartsBlank.mono {later : List Event}
    (hstarts : StartsBlank config log stored) (hlater : log ⊆ later) :
    StartsBlank config later stored :=
  fun hnone => hstarts fun event hmember => hnone event (hlater hmember)

theorem Event.startsBlank_of_mem {event : Event} {request : Wire.Request}
    (hmember : event ∈ log) (hquery : event.query = .send request)
    (hexchanges : request.Exchanges config) (credential : Credential) :
    StartsBlank config log credential :=
  fun hnone => absurd hexchanges (hnone event hmember request hquery)

theorem Query.startsBlank_of_idle {query : Query}
    (hstarts : Event.StartsBlank config log stored) (hidle : query.IsIdle) :
    query.StartsBlank config log stored := by
  cases query <;> first | exact hidle.elim | exact ⟨hstarts, hstarts, by simp⟩

theorem Query.startsBlank_send {request : Wire.Request}
    (hstarts : Event.StartsBlank config log stored)
    (hrenews : config.endpoint? request = some .refresh → stored ≠ .blank) :
    (Query.send request).StartsBlank config log stored := by
  refine ⟨hstarts, hstarts, ?_⟩
  rintro sent hsent
  cases hsent
  exact hrenews

theorem Query.startsBlank_replace {credential : Credential}
    (hstarts : Event.StartsBlank config log stored)
    (hwritten : Event.StartsBlank config log credential) :
    (Query.replace credential).StartsBlank config log stored :=
  ⟨hstarts, hwritten, by simp⟩

theorem Store.keepsStartsBlank :
    Kept config (fun _ => True)
      (fun log => Query.StartsBlank config (past ++ log))
      (fun log => Event.StartsBlank config (past ++ log)) where
  idle query hstarts hidle :=
    ⟨Query.startsBlank_of_idle hstarts hidle, fun _ _ => hstarts.mono (by simp)⟩
  exchange {log stored} exchange hstarts hsuits := by
    rw [perform_run]
    cases hrequest : config.grantRequest exchange.endpoint
        (exchange.grant config.login) with
    | error failure => exact ⟨hstarts, by simp⟩
    | ok request =>
        have hendpoint := Config.endpoint?_grantRequest hrequest
        have hexchanges := Wire.Request.exchanges_of_grantRequest hrequest
        have hrenews : config.endpoint? request = some .refresh →
            stored ≠ .blank := by
          rintro hrefresh rfl
          cases exchange with
          | acquire =>
              rw [hendpoint] at hrefresh
              cases hrefresh
          | renew refreshToken => cases hsuits
        refine ⟨Query.startsBlank_send hstarts hrenews, fun answer _ => ?_⟩
        -- From here on there has been an exchange, and anything may be stored.
        have hany : ∀ {later} credential,
            (⟨stored, .send request, answer⟩ : Event) ∈ later →
              Event.StartsBlank config later credential :=
          fun credential hmember =>
            Event.startsBlank_of_mem hmember rfl hexchanges credential
        exact Rests.settle (hany _ (by simp))
          (Query.startsBlank_of_idle (hany _ (by simp)) trivial)
          (fun _ => hany _ (by simp)) fun _ _ _ =>
            ⟨Query.startsBlank_replace (hany _ (by simp)) (hany _ (by simp)),
              hany _ (by simp)⟩
  deliver call url request hstarts hheld _ hrequest := by
    refine ⟨Query.startsBlank_send hstarts ?_, fun _ => hstarts.mono (by simp)⟩
    rw [Wire.Request.endpoint?_of_assemble hrequest]
    simp

theorem Store.revoke_keepsStartsBlank
    (hstarts : Event.StartsBlank config (past ++ log) stored) :
    (Store.revoke config).run.Obeys
      (fun log => Query.StartsBlank config (past ++ log))
      (Rests (fun log => Event.StartsBlank config (past ++ log)) fun _ _ => True)
      log stored := by
  have hblank : ∀ log, Event.StartsBlank config log .blank := fun _ _ => rfl
  refine keepsStartsBlank.revoke hstarts ?_ fun hstarts =>
    ⟨Query.startsBlank_replace hstarts (hblank _), hblank _⟩
  intro log refreshToken request hstarts _ hrequest
  refine ⟨Query.startsBlank_send hstarts ?_, fun _ => hstarts.mono (by simp)⟩
  rw [Config.endpoint?_grantRequest hrequest]
  simp

end StartsBlank

/-- Where nothing is stored at first, the first exchange obtains a token with the
login. -/
theorem Session.acquires_first {σ : Type} (config : Config) (backend : Backend σ)
    (operations : List Operation) (start : World σ)
    (hstart : start.credential = .blank)
    {before after : List (Operation × Event)} {operation : Operation}
    {event : Event} {request : Wire.Request}
    (hsplit : Session.log config backend operations start =
      before ++ (operation, event) :: after)
    (hquery : event.query = .send request)
    (hexchanges : request.Exchanges config)
    (hfirst : ∀ entry ∈ before, ∀ sent, entry.2.query = .send sent →
      ¬sent.Exchanges config) :
    config.endpoint? request = some .app := by
  have hkeeps : ∀ operation ∈ operations, ∀ past stored,
      Event.StartsBlank config (past.map (·.2)) stored →
        (operation.perform config).run.Obeys
          (fun log stored query => Query.StartsBlank config
            ((past ++ log.map (operation, ·)).map (·.2)) stored query)
          (fun log stored _ => Event.StartsBlank config
            ((past ++ log.map (operation, ·)).map (·.2)) stored)
          [] stored := by
    intro operation _ past stored hstarts
    have hlogs : ∀ log : List Event,
        (past ++ log.map (operation, ·)).map (·.2) = past.map (·.2) ++ log := by
      intro log
      simp [Function.comp_def]
    have hstarts : Event.StartsBlank config (past.map (·.2) ++ []) stored := by
      rw [List.append_nil]
      exact hstarts
    simp only [hlogs]
    refine (Store.keepsStartsBlank.performAll hstarts
      (Store.revoke_keepsStartsBlank hstarts) ?_ operation
      fun _ _ => trivial).mono (fun _ _ _ hask => hask) (fun _ _ _ hrests => hrests.1)
    exact fun _ _ _ _ hquery _ => hquery.after.mono (by simp)
  obtain ⟨-, hasks⟩ := Session.invariant config backend operations start
    (fun past _ => Query.StartsBlank config (past.map (·.2)))
    (fun past => Event.StartsBlank config (past.map (·.2))) [] (fun _ => hstart)
    hkeeps
  have hquestion := hasks before operation event after hsplit
  have hblank : event.stored = .blank := by
    apply hquestion.before
    intro earlier hmember sent hsent
    obtain ⟨entry, hentry, rfl⟩ := List.mem_map.1 hmember
    exact hfirst entry hentry sent hsent
  rcases hexchanges with happ | hrefresh
  · exact happ
  · exact absurd hblank (hquestion.renews request hquery hrefresh)

/-- A revocation in any state of a client ends with nothing stored.  It reports a
failure exactly if it had a refresh token to revoke and the backend did not
confirm it, and what comes after it obtains a token before it renews one. -/
theorem Store.revoke_forgets {σ : Type} (config : Config) (backend : Backend σ)
    (outside : σ) (operations later : List Operation) :
    let world := Session.world config backend operations { outside }
    ∃ result final,
      (revoke config).run.run backend world = (some result, final) ∧
        final.credential = .blank ∧
        Revocation config backend world result final ∧
        ∀ before operation event after request,
          Session.log config backend later final =
            before ++ (operation, event) :: after →
          event.query = .send request → request.Exchanges config →
            (∀ entry ∈ before, ∀ sent, entry.2.query = .send sent →
              ¬sent.Exchanges config) →
            config.endpoint? request = some .app := by
  intro world
  obtain ⟨result, final, hrun, hrevocation⟩ := revocation_run backend
    (Session.obtainable config backend outside operations)
  refine ⟨result, final, hrun, hrevocation.credential_eq, hrevocation, ?_⟩
  intro before operation event after request hsplit hquery hexchanges hfirst
  exact Session.acquires_first config backend later final hrevocation.credential_eq
    hsplit hquery hexchanges hfirst

end BearerClient
