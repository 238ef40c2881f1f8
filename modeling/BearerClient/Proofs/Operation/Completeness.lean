import BearerClient.Proofs.Credential.Complete
import BearerClient.Proofs.Operation.Carries
import BearerClient.Proofs.Operation.Session

/-!
# All of a credential or nothing

Whatever operations are carried out, and whatever they are answered, the
credential that is stored is blank or complete at every moment.  So a token that
is handed out can be used, what is shown of the credential is of one piece, and
no grant has a blank refresh token.
-/

namespace BearerClient

/-- What is stored is blank or complete, before a question and after it, and a
request carries what is stored. -/
def Query.IsWhole (config : Config) (stored : Credential) (query : Query) : Prop :=
  stored.BlankOrComplete ∧ (query.leaves stored).BlankOrComplete ∧
    ∀ request, query = .send request → request.Carries config stored

section Whole

variable {config : Config} {log : List Event} {stored : Credential}

theorem Query.isWhole_of_idle {query : Query} (hstored : stored.BlankOrComplete)
    (hidle : query.IsIdle) : query.IsWhole config stored := by
  cases query <;>
    first | exact hidle.elim | exact ⟨hstored, hstored, by simp⟩

theorem Query.isWhole_replace {credential : Credential}
    (hstored : stored.BlankOrComplete) (hwritten : credential.BlankOrComplete) :
    (Query.replace credential).IsWhole config stored :=
  ⟨hstored, hwritten, by simp⟩

theorem Query.isWhole_send {request : Wire.Request} (hstored : stored.BlankOrComplete)
    (hcarries : request.Carries config stored) :
    (Query.send request).IsWhole config stored := by
  refine ⟨hstored, hstored, fun sent hsent => ?_⟩
  cases hsent
  exact hcarries

theorem Store.keepsWhole :
    Kept config (fun _ => True) (fun _ => Query.IsWhole config)
      (fun _ stored => stored.BlankOrComplete) where
  idle query hstored hidle := ⟨Query.isWhole_of_idle hstored hidle, fun _ _ => hstored⟩
  exchange {log stored} exchange hstored hsuits := by
    rw [Store.perform_run]
    cases hrequest : config.grantRequest exchange.endpoint
        (exchange.grant config.login) with
    | error failure => exact ⟨hstored, by simp⟩
    | ok request =>
        refine ⟨Query.isWhole_send hstored
          (Wire.Request.carries_of_exchange hsuits hrequest), fun answer _ => ?_⟩
        exact Rests.settle hstored (Query.isWhole_of_idle hstored trivial)
          (fun _ => hstored) fun _ _ hcomplete =>
            ⟨Query.isWhole_replace hstored (.inr hcomplete), .inr hcomplete⟩
  deliver call url request hstored hheld _ hrequest :=
    ⟨Query.isWhole_send hstored (Wire.Request.carries_of_assemble hheld hrequest),
      fun _ => hstored⟩

theorem Store.revoke_keepsWhole (hstored : stored.BlankOrComplete) :
    (Store.revoke config).run.Obeys (fun _ => Query.IsWhole config)
      (Rests (fun _ stored => stored.BlankOrComplete) fun _ _ => True)
      log stored := by
  refine Store.keepsWhole.revoke hstored ?_ fun hstored =>
    ⟨Query.isWhole_replace hstored (.inl rfl), .inl rfl⟩
  intro log refreshToken request hstored hrefresh hrequest
  exact ⟨Query.isWhole_send hstored
    (Wire.Request.carries_of_revocation hrefresh hrequest), fun _ => hstored⟩

end Whole

/-- Every operation keeps what is stored whole. -/
theorem Operation.keepsWhole {config : Config} {log : List Event}
    {stored : Credential} (operation : Operation)
    (hstored : stored.BlankOrComplete) :
    (operation.perform config).run.Obeys (fun _ => Query.IsWhole config)
      (Rests (fun _ stored => stored.BlankOrComplete) fun _ _ => True)
      log stored :=
  Store.keepsWhole.performAll hstored (Store.revoke_keepsWhole hstored)
    (fun _ _ _ _ hwhole _ => hwhole.2.1) operation fun _ _ => trivial

/-- At its end and at each question a session has stored nothing but whole credentials. -/
theorem Session.isWhole {σ : Type} (config : Config) (backend : Backend σ) (outside : σ)
    (operations : List Operation) :
    (Session.world config backend operations { outside }).credential.BlankOrComplete ∧
      ∀ entry ∈ Session.log config backend operations { outside },
        entry.2.query.IsWhole config entry.2.stored := by
  obtain ⟨hfinal, hasks⟩ := Session.invariant config backend operations
    { outside } (fun _ _ => Query.IsWhole config)
    (fun _ stored => stored.BlankOrComplete) [] (.inl rfl)
    fun operation _ past stored hstored =>
      (operation.keepsWhole hstored).mono (fun _ _ _ hask => hask)
        (fun _ _ _ hrests => hrests.1)
  refine ⟨hfinal, fun entry hmember => ?_⟩
  obtain ⟨before, after, hsplit⟩ := List.append_of_mem hmember
  exact hasks before entry.1 entry.2 after hsplit

/-! ## What follows for a client -/

/-- The credential is stored at some moment of a session. -/
def Session.Stores {σ : Type} (config : Config) (backend : Backend σ)
    (operations : List Operation) (start : World σ) (credential : Credential) :
    Prop :=
  credential = (Session.world config backend operations start).credential ∨
    ∃ entry ∈ Session.log config backend operations start,
      credential = entry.2.stored

namespace Store

variable {σ : Type} {backend : Backend σ} {config : Config} {world final : World σ}

theorem getToken_eq {token : String}
    (hstored : world.credential.BlankOrComplete)
    (hrun : (getToken config).run.run backend world = (some (.ok token), final)) :
    Text.isBlank token = false ∧ token = final.credential.token := by
  have hobeys : (getToken config).run.Obeys (fun _ => Query.IsWhole config)
      (Rests (fun _ stored => stored.BlankOrComplete) fun stored token =>
        token = stored.token ∧ stored.isBlank = false)
      [] world.credential := keepsWhole.getToken hstored
  have hends := hobeys.ends_of_run backend
  rw [hrun] at hends
  obtain ⟨htoken, hheld⟩ := hends.2 token rfl
  refine ⟨?_, htoken⟩
  rw [htoken]
  exact hheld

theorem untilRefresh_run :
    (untilRefresh config).run backend world =
      match world.credential.threshold config.refreshMargin with
      | none => (some none, world)
      | some due =>
        (some (some (Instant.wait (backend.now world.outside).1 due)),
          { world with outside := (backend.now world.outside).2 }) := by
  unfold untilRefresh
  apply (Program.run_bind backend (threshold config) _ world).trans
  change Program.run backend _ world = _
  cases world.credential.threshold config.refreshMargin with
  | none => rfl
  | some due => rfl

/-- What is shown of the credential agrees on whether there is one. -/
theorem shown_eq (backend : Backend σ) (config : Config)
    (hstored : world.credential.BlankOrComplete) :
    ∃ held due wait later,
      authenticated.run backend world = (some held, world) ∧
        (threshold config).run backend world = (some due, world) ∧
        (untilRefresh config).run backend world = (some wait, later) ∧
        due.isSome = held ∧ wait.isSome = held := by
  have hthreshold := hstored.threshold config.refreshMargin
  refine ⟨!world.credential.isBlank,
    world.credential.threshold config.refreshMargin, ?_⟩
  rw [untilRefresh_run]
  cases hdue : world.credential.threshold config.refreshMargin with
  | none =>
      rw [hdue] at hthreshold
      exact ⟨none, world, rfl, by rw [← hdue]; rfl, rfl, hthreshold, hthreshold⟩
  | some due =>
      rw [hdue] at hthreshold
      exact ⟨_, _, rfl, by rw [← hdue]; rfl, rfl, hthreshold, hthreshold⟩

end Store

/-- What a session shows of its credentials. -/
structure Session.StaysWhole {σ : Type} (config : Config) (backend : Backend σ)
    (operations : List Operation) (start : World σ) : Prop where
  /-- what is stored is blank or complete -/
  stored : ∀ credential,
    Session.Stores config backend operations start credential →
      credential.BlankOrComplete
  /-- a token that is handed out is stored, and not blank -/
  token : ∀ world token final,
    Session.Stores config backend operations start world.credential →
      (Store.getToken config).run.run backend world =
          (some (.ok token), final) →
        Text.isBlank token = false ∧ token = final.credential.token
  /-- what is shown agrees on whether a credential is held -/
  shown : ∀ world,
    Session.Stores config backend operations start world.credential →
      ∃ held due wait later,
        Store.authenticated.run backend world = (some held, world) ∧
          (Store.threshold config).run backend world = (some due, world) ∧
          (Store.untilRefresh config).run backend world = (some wait, later) ∧
          due.isSome = held ∧ wait.isSome = held
  /-- no refresh token that is granted is blank -/
  granted : ∀ entry ∈ Session.log config backend operations start,
    ∀ request refreshToken, entry.2.query = .send request →
      request.Grants config refreshToken → Text.isBlank refreshToken = false

/-- Nothing but whole credentials is stored in any session. -/
theorem session_staysWhole {σ : Type} (config : Config) (backend : Backend σ)
    (outside : σ) (operations : List Operation) :
    Session.StaysWhole config backend operations { outside } := by
  obtain ⟨hfinal, hasks⟩ := Session.invariant config backend operations
    { outside } (fun _ _ => Query.IsWhole config)
    (fun _ stored => stored.BlankOrComplete) [] (.inl rfl)
    fun operation _ past stored hstored =>
      (operation.keepsWhole hstored).mono (fun _ _ _ hask => hask)
        (fun _ _ _ hrests => hrests.1)
  have hentry : ∀ entry ∈ Session.log config backend operations { outside },
      entry.2.query.IsWhole config entry.2.stored := by
    intro entry hmember
    obtain ⟨before, after, hsplit⟩ := List.append_of_mem hmember
    exact hasks before entry.1 entry.2 after hsplit
  have hstored : ∀ credential,
      Session.Stores config backend operations { outside } credential →
        credential.BlankOrComplete := by
    rintro credential (rfl | ⟨entry, hmember, rfl⟩)
    · exact hfinal
    · exact (hentry entry hmember).1
  refine ⟨hstored, ?_, ?_, ?_⟩
  · intro world token final hworld hrun
    exact Store.getToken_eq (hstored _ hworld) hrun
  · intro world hworld
    exact Store.shown_eq backend config (hstored _ hworld)
  · intro entry hmember request refreshToken hquery hgrants
    obtain ⟨hwhole, -, hcarries⟩ := hentry entry hmember
    exact hwhole.refreshToken
      ((hcarries request hquery).refreshToken_eq hgrants)

end BearerClient
