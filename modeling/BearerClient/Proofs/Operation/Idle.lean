import BearerClient.Proofs.Delivery.Causes
import BearerClient.Proofs.Operation.Completeness
import BearerClient.Proofs.Store.Announced

/-!
# Undisturbed use

A session is calm for a credential if no reading of its clock is past the threshold of the
credential, its refreshes come soon after the last success, and none of its calls is
rejected.  An operation of such a session has no cause for an exchange: it uses the
credential and leaves it as it is, so the next operation starts from the same one.
-/

namespace BearerClient

/-- The question leaves a credential alone: a request bears its token. -/
def Query.Uses (credential : Credential) : Query → Prop
  | .replace _ => False
  | .send request => request.Bears credential.token
  | _ => True

namespace Program

variable {σ α β : Type} {credential : Credential} {calm : Event → Prop}
  {holds : Option α → Prop} {holds' : Option β → Prop}

/-- As long as its answers are calm, the program uses the credential that is stored, and
ends as it should. -/
def Uses (credential : Credential) (calm : Event → Prop) (holds : Option α → Prop) :
    Program α → Prop
  | done a => holds (some a)
  | abort => holds none
  | ask query next =>
    query.Uses credential ∧
      ∀ answer, query.Allows credential answer → calm ⟨credential, query, answer⟩ →
        (next answer).Uses credential calm holds

theorem Uses.bind {program : Program α} {f : α → Program β}
    (hprogram : program.Uses credential calm holds)
    (hf : ∀ a, holds (some a) → (f a).Uses credential calm holds')
    (habort : holds none → holds' none) :
    (program.bind f).Uses credential calm holds' := by
  induction program with
  | done a => exact hf a hprogram
  | abort => exact habort hprogram
  | ask query next ih =>
      obtain ⟨hquery, hnext⟩ := hprogram
      exact ⟨hquery, fun answer hanswer hcalm => ih answer (hnext answer hanswer hcalm)⟩

theorem Uses.mono {holds' : Option α → Prop} {program : Program α}
    (hprogram : program.Uses credential calm holds)
    (hholds : ∀ result, holds result → holds' result) :
    program.Uses credential calm holds' := by
  induction program with
  | done a => exact hholds _ hprogram
  | abort => exact hholds _ hprogram
  | ask query next ih =>
      obtain ⟨hquery, hnext⟩ := hprogram
      exact ⟨hquery, fun answer hanswer hcalm => ih answer (hnext answer hanswer hcalm)⟩

theorem Uses.cutOff {program : Program α} (questions : Nat)
    (hprogram : program.Uses credential calm holds) :
    (program.cutOff questions).Uses credential calm fun _ => True := by
  induction program generalizing questions with
  | done a => cases questions <;> trivial
  | abort => cases questions <;> trivial
  | ask query next ih =>
      cases questions with
      | zero => trivial
      | succ questions =>
          obtain ⟨hquery, hnext⟩ := hprogram
          exact ⟨hquery, fun answer hanswer hcalm =>
            ih answer questions (hnext answer hanswer hcalm)⟩

/-- A calm run leaves the credential as it is. -/
theorem Uses.run {program : Program α} (backend : Backend σ) {world : World σ}
    (hprogram : program.Uses credential calm holds)
    (hstored : world.credential = credential)
    (hcalm : ∀ event ∈ program.events backend world, calm event) :
    (program.run backend world).2.credential = credential ∧
      (∀ event ∈ program.events backend world, event.query.Uses credential) ∧
      holds (program.run backend world).1 := by
  induction program generalizing world with
  | done a => exact ⟨hstored, by simp [events], hprogram⟩
  | abort => exact ⟨hstored, by simp [events], hprogram⟩
  | ask query next ih =>
      obtain ⟨hquery, hnext⟩ := hprogram
      have hallowed := allows_answer backend world query
      have hlater := answer_credential backend world query
      simp only [events, List.forall_mem_cons, hstored] at hcalm hallowed hlater ⊢
      have hleaves : query.leaves credential = credential := by
        cases query with
        | replace written => exact hquery.elim
        | _ => rfl
      obtain ⟨hfinal, hevents, hholds⟩ := ih _ (hnext _ hallowed hcalm.1)
        (hlater.trans hleaves) hcalm.2
      exact ⟨hfinal, ⟨hquery, hevents⟩, hholds⟩

end Program

section Calls

variable {α β : Type} {config : Config} {credential : Credential} {calm : Event → Prop}

theorem Call.uses_bind {call : Call α} {f : α → Call β} {a : α}
    {holds : Option (Except Failure β) → Prop}
    (hcall : call.run.Uses credential calm (· = some (.ok a)))
    (hf : (f a).run.Uses credential calm holds) :
    (call >>= f).run.Uses credential calm holds := by
  refine Program.Uses.bind hcall (fun result hresult => ?_) fun hnone => nomatch hnone
  cases hresult
  exact hf

theorem Call.uses_locked {call : Call α} {holds : Option (Except Failure α) → Prop}
    (hcall : call.run.Uses credential calm holds) :
    (Call.locked call).run.Uses credential calm holds := by
  rw [Call.run_locked]
  refine ⟨trivial, fun _ _ _ => ?_⟩
  exact hcall.bind (fun result hresult => ⟨trivial, fun _ _ _ => hresult⟩) fun hnone => hnone

theorem Call.uses_map {call : Call α} {f : α → β}
    {holds : Option (Except Failure α) → Prop}
    (hcall : call.run.Uses credential calm holds) :
    (f <$> call).run.Uses credential calm fun _ => True := by
  rw [map_eq_pure_bind]
  refine Program.Uses.bind hcall (fun result _ => ?_) fun _ => trivial
  cases result <;> trivial

/-! ## The store -/

namespace Store

/-- Nothing is due while a token is held that the clock does not make due. -/
theorem decision_uses {due : Credential → Instant → Bool} (hheld : credential.isBlank = false)
    (hdue : ∀ now, calm ⟨credential, .now, now⟩ → due credential now = false) :
    (decision due).Uses credential calm (· = some (.ok none)) := by
  refine ⟨trivial, fun answer hanswer _ => ?_⟩
  cases hanswer
  simp only [hheld, Bool.false_eq_true, if_false]
  refine ⟨trivial, fun now _ hnow => ?_⟩
  simp only [hdue now hnow, Bool.false_eq_true, if_false]
  rfl

theorem getToken_uses (hheld : credential.isBlank = false)
    (hdue : ∀ now, calm ⟨credential, .now, now⟩ →
      credential.isExpired now config.refreshMargin = false) :
    (getToken config).run.Uses credential calm (· = some (.ok credential.token)) := by
  have hdecision : (exchangeForToken config).run.Uses credential calm
      (· = some (.ok none)) := by
    rw [exchangeForToken_run]
    exact decision_uses hheld hdue
  refine Call.uses_locked (Call.uses_bind hdecision ⟨trivial, fun answer hanswer _ => ?_⟩)
  cases hanswer
  rfl

theorem refresh_uses (hheld : credential.isBlank = false)
    (hfresh : ∀ now, calm ⟨credential, .now, now⟩ →
      credential.isFresh now config.freshBuffer = true) :
    (refresh config).run.Uses credential calm fun _ => True := by
  have hdecision : (exchangeForRefresh config).run.Uses credential calm
      (· = some (.ok none)) := by
    rw [exchangeForRefresh_run]
    refine decision_uses hheld fun now hnow => ?_
    rw [hfresh now hnow]
    rfl
  exact Call.uses_locked (Call.uses_bind hdecision trivial)

end Store

/-! ## Delivery -/

namespace Delivery

variable {call : ApiCall} {url : String} {retriesLeft : Nat}
  (htoken : (Store.getToken config).run.Uses credential calm
    (· = some (.ok credential.token)))
  (haccepted : ∀ request answer, calm ⟨credential, .send request, answer⟩ →
    rejects answer = false)
include htoken haccepted

/-- What follows a delivery only has to look at answers that do not reject the token. -/
theorem deliver_uses {f : Except Failure Outcome → Program β} {holds : Option β → Prop}
    (hfailed : ∀ failure, (f (.error failure)).Uses credential calm holds)
    (hanswered : ∀ answer, rejects answer = false →
      (f (concluded retriesLeft answer)).Uses credential calm holds) :
    ((Store.getToken config).run.bind fun token =>
      (deliver config call url retriesLeft token).bind f).Uses credential calm holds := by
  refine htoken.bind (fun token hheld => ?_) fun hnone => nomatch hnone
  cases hheld
  simp only [deliver]
  cases hrequest : call.assemble config url credential.token with
  | error failure => exact hfailed failure
  | ok request =>
      exact ⟨ApiCall.bears_of_assemble hrequest, fun answer _ hcalm =>
        hanswered answer (haccepted request answer hcalm)⟩

/-- A round ends with its first answer. -/
theorem round_uses (rest : Call Reply) :
    (round config call url retriesLeft rest).run.Uses credential calm fun _ => True := by
  rw [round_run]
  refine deliver_uses htoken haccepted (fun _ => trivial) fun answer hanswer => ?_
  rw [afterAttempt_concluded, hanswer]
  trivial

theorem attempts_uses (attempted : Nat) :
    (attempts config call url retriesLeft attempted).run.Uses credential calm
      fun _ => True :=
  attempts_induction (motive := fun _ rest => rest.run.Uses credential calm fun _ => True)
    (fun _ => trivial) (round_uses htoken haccepted _)
    (fun _ rest _ => round_uses htoken haccepted rest) retriesLeft attempted

theorem execute_uses (call : ApiCall) :
    (execute config call).run.Uses credential calm fun _ => True := by
  unfold execute
  rw [Call.run_decided_bind]
  cases call.repeatableTarget config with
  | error failure => trivial
  | ok url => exact attempts_uses htoken haccepted 0

theorem dispatch_uses (call : ApiCall) :
    (dispatch config call).run.Uses credential calm fun _ => True := by
  cases htarget : call.target config with
  | error failure =>
      rw [dispatch_refused htarget]
      trivial
  | ok url =>
      rw [dispatch_run htarget]
      exact deliver_uses htoken haccepted (fun _ => trivial) fun _ _ => trivial

theorem dispatchUnlessCancelled_uses (call : ApiCall) (cancelled : Option Nat) :
    (dispatchUnlessCancelled config call cancelled).run.Uses credential calm
      fun _ => True := by
  have hdispatch := dispatch_uses htoken haccepted call
  cases cancelled with
  | none => exact hdispatch
  | some questions =>
      exact (hdispatch.cutOff questions).bind (fun _ _ => trivial) fun _ => trivial

theorem dispatches_uses (call : ApiCall) {remaining : Nat}
    (hremaining : remaining < UInt32.size) :
    (Client.dispatches config call remaining).run.Uses credential calm fun _ => True := by
  obtain ⟨rest, hrest⟩ : ∃ rest, Client.dispatches config call remaining =
      Client.round config call remaining rest := by
    cases remaining with
    | zero => exact ⟨_, Client.dispatches_zero⟩
    | succ remaining => exact ⟨_, Client.dispatches_succ⟩
  rw [hrest]
  cases htarget : call.target config with
  | error failure =>
      rw [Client.round_refused htarget]
      trivial
  | ok url =>
      rw [Client.round_eq htarget hremaining]
      exact round_uses htoken haccepted rest

theorem send_uses (call : ApiCall) :
    (Client.send config call).run.Uses credential calm fun _ => True := by
  unfold Client.send
  split
  · exact dispatch_uses htoken haccepted _
  · exact dispatches_uses htoken haccepted _ (UInt32.toNat_lt_size _)

end Delivery
end Calls

/-! ## Operations -/

def Operation.isRefresh : Operation → Bool
  | .refresh => true
  | _ => false

/-- The event gives an operation no cause for an exchange. -/
def Event.Calm (config : Config) (credential : Credential) (operation : Operation) :
    Event → Prop
  | ⟨_, .now, now⟩ =>
    (∀ expiresAt ∈ credential.expiresAt, now ≤ expiresAt.earlier config.refreshMargin) ∧
      (operation.isRefresh = true →
        ∀ last ∈ credential.lastUpdate, now < last.later config.freshBuffer)
  | ⟨_, .send _, answer⟩ => Delivery.rejects answer = false
  | _ => True

instance (config : Config) (credential : Credential) (operation : Operation) :
    (event : Event) → Decidable (event.Calm config credential operation)
  | ⟨_, .now, _⟩ => inferInstanceAs (Decidable (_ ∧ _))
  | ⟨_, .send _, _⟩ => inferInstanceAs (Decidable (_ = false))
  | ⟨_, .credential, _⟩ | ⟨_, .replace _, _⟩ | ⟨_, .lock, _⟩ | ⟨_, .unlock, _⟩
  | ⟨_, .wait _, _⟩ => isTrue trivial

namespace Credential.Complete

variable {credential : Credential} {now : Instant}

theorem isExpired_of_le (hcomplete : credential.Complete) {margin : Duration}
    (hnow : ∀ expiresAt ∈ credential.expiresAt, now ≤ expiresAt.earlier margin) :
    credential.isExpired now margin = false := by
  obtain ⟨expiresAt, hexpires⟩ := Option.isSome_iff_exists.1 hcomplete.expiresAt
  have hpast : ¬expiresAt.earlier margin < now := Int.not_lt.2 (hnow expiresAt hexpires)
  simp [isExpired, threshold, hexpires, hcomplete.token, hpast]

theorem isFresh_of_lt_later (hcomplete : credential.Complete) {buffer : Duration}
    (hnow : ∀ last ∈ credential.lastUpdate, now < last.later buffer) :
    credential.isFresh now buffer = true := by
  obtain ⟨last, hlast⟩ := Option.isSome_iff_exists.1 hcomplete.lastUpdate
  rw [isFresh, hlast]
  exact decide_eq_true (hnow last hlast)

end Credential.Complete

/-- What an operation may end with: a token that it hands out is the one in use. -/
def Operation.HandsOut (credential : Credential) (operation : Operation)
    (result : Option (Except Failure Operation.Result)) : Prop :=
  operation = .getToken → result = some (.ok (.token credential.token))

theorem Operation.perform_uses (operation : Operation) (config : Config)
    {credential : Credential} (hcomplete : credential.Complete)
    (hacquire : operation ≠ .acquire) (hrevoke : operation ≠ .revoke) :
    (operation.perform config).run.Uses credential
      (Event.Calm config credential operation) (operation.HandsOut credential) := by
  have htoken : (Store.getToken config).run.Uses credential
      (Event.Calm config credential operation) (· = some (.ok credential.token)) :=
    Store.getToken_uses hcomplete.token fun now hnow => hcomplete.isExpired_of_le hnow.1
  have haccepted (request : Wire.Request) (answer : Except TransportFault Wire.Response)
      (hcalm : Event.Calm config credential operation
        ⟨credential, .send request, answer⟩) : Delivery.rejects answer = false := hcalm
  have hother {call : Call Operation.Result} (hdiffers : operation ≠ .getToken)
      (hcall : call.run.Uses credential (Event.Calm config credential operation)
        fun _ => True) :
      call.run.Uses credential (Event.Calm config credential operation)
        (operation.HandsOut credential) :=
    hcall.mono fun _ _ hgets => absurd hgets hdiffers
  cases operation with
  | getToken =>
      refine Call.uses_bind htoken fun _ => rfl
  | refresh =>
      refine hother nofun (Call.uses_map (Store.refresh_uses hcomplete.token ?_))
      exact fun now hnow => hcomplete.isFresh_of_lt_later (hnow.2 rfl)
  | acquire => exact absurd rfl hacquire
  | revoke => exact absurd rfl hrevoke
  | execute call =>
      exact hother nofun (Call.uses_map (Delivery.execute_uses htoken haccepted call))
  | dispatch call =>
      exact hother nofun (Call.uses_map (Delivery.dispatch_uses htoken haccepted call))
  | cancellable call cancelled =>
      exact hother nofun (Call.uses_map
        (Delivery.dispatchUnlessCancelled_uses htoken haccepted call cancelled))
  | send call =>
      exact hother nofun (Call.uses_map (Delivery.send_uses htoken haccepted call))

/-! ## Sessions -/

theorem Wire.Request.Bears.not_isGrant {config : Config} {request : Wire.Request}
    {token : String} (hbears : request.Bears token) : ¬request.IsGrant config := by
  rintro ⟨endpoint, grant, hrequest⟩
  have hbearer := Config.grantRequest_hasBearer hrequest
  rw [hbears.hasBearer] at hbearer
  cases hbearer

namespace Session

/-- No event of a session gives its operation a cause for an exchange. -/
def Calm (config : Config) (credential : Credential) (log : List (Operation × Event)) :
    Prop :=
  ∀ entry ∈ log, entry.2.Calm config credential entry.1

instance (config : Config) (credential : Credential) (log : List (Operation × Event)) :
    Decidable (Calm config credential log) :=
  inferInstanceAs (Decidable (∀ entry ∈ log, _))

/-- A session makes use of the credential that it starts with, and of no other. -/
structure Undisturbed {σ : Type} (config : Config) (backend : Backend σ)
    (operations : List Operation) (start : World σ) : Prop where
  /-- the credential stays -/
  stored : (world config backend operations start).credential = start.credential
  /-- whatever is sent bears its token, and is no request for a credential -/
  sent : ∀ entry ∈ log config backend operations start, ∀ request,
    entry.2.query = .send request →
      request.Bears start.credential.token ∧ ¬request.IsGrant config
  /-- the token is handed out to all who ask for one -/
  token : ∀ before after, operations = before ++ .getToken :: after →
    ((Operation.getToken.perform config).run.run backend
        (world config backend before start)).1 =
      some (.ok (.token start.credential.token))

theorem undisturbed {σ : Type} {config : Config} {backend : Backend σ}
    {operations : List Operation} {start : World σ} (hcomplete : start.credential.Complete)
    (hoperations : ∀ operation ∈ operations, operation ≠ .acquire ∧ operation ≠ .revoke)
    (hcalm : Calm config start.credential (log config backend operations start)) :
    Undisturbed config backend operations start := by
  induction operations generalizing start with
  | nil => exact ⟨rfl, by simp [log], by simp⟩
  | cons operation rest ih =>
      rw [List.forall_mem_cons] at hoperations
      obtain ⟨⟨hacquire, hrevoke⟩, hrest⟩ := hoperations
      have huses := operation.perform_uses config hcomplete hacquire hrevoke
      rw [Calm, log, List.forall_mem_append, List.forall_mem_map] at hcalm
      obtain ⟨hstored, hevents, hhanded⟩ := huses.run backend rfl hcalm.1
      -- The rest starts from the credential that the first operation has left as it was.
      rw [← hstored] at hcomplete hcalm
      obtain ⟨hfinal, hsent, htoken⟩ := ih hcomplete hrest hcalm.2
      rw [hstored] at hfinal hsent htoken
      refine ⟨hfinal, ?_, ?_⟩
      · rw [log, List.forall_mem_append, List.forall_mem_map]
        refine ⟨fun event hevent request hquery => ?_, hsent⟩
        have hbears := hevents event hevent
        rw [hquery] at hbears
        exact ⟨hbears, Wire.Request.Bears.not_isGrant hbears⟩
      · intro before after hsplit
        cases before with
        | nil =>
            cases hsplit
            exact hhanded rfl
        | cons first before =>
            cases hsplit
            exact htoken before after rfl

/-- What a session comes to for those who use its token from then on. -/
structure AnnouncesExchanges {σ : Type} (config : Config) (backend : Backend σ)
    (world : World σ) : Prop where
  /-- the next token costs an exchange exactly if it is announced -/
  announced : Store.Announced config backend world
  /-- and none is due as long as the use of a held credential stays calm -/
  undisturbed : ∀ later : List Operation, world.credential.isBlank = false →
    (∀ operation ∈ later, operation ≠ .acquire ∧ operation ≠ .revoke) →
      Calm config world.credential (log config backend later world) →
        Undisturbed config backend later world

/-- Whatever a session has done before, a token is exchanged exactly when it is announced,
and not at all while its use is calm. -/
theorem announces_exchanges {σ : Type} (config : Config) (hgrant : config.CanGrant)
    (backend : Backend σ) (outside : σ) (operations : List Operation) :
    AnnouncesExchanges config backend (world config backend operations { outside }) := by
  have hstored := (isWhole config backend outside operations).1
  refine ⟨Store.announced backend hgrant hstored, fun later hheld hoperations hcalm => ?_⟩
  rcases hstored with hblank | hcomplete
  · rw [hblank] at hheld
    cases hheld
  · exact undisturbed hcomplete hoperations hcalm

/-- A token that is used again, and kept by a refresh soon after it was obtained. -/
theorem announces_exchanges_reused :
    let config : Config :=
      { apiUrl := "http://127.0.0.1", login := ⟨"user", "secret", "id", "key"⟩ }
    let script : Rehearsal.Script := ⟨[
      ("app", [.token (some "first") (some "again") (some (.after 3600000))]),
      ("*", [.plain 200 "content", .plain 404 ""])]⟩
    let held := world config script.backend [.getToken] { outside := ⟨.epoch, []⟩ }
    let later : List Operation :=
      [.getToken, .execute (.get "items"), .refresh, .send (.get "items"), .getToken]
    config.CanGrant ∧ AnnouncesExchanges config script.backend held ∧
      Undisturbed config script.backend later held := by
  intro config script held later
  have hgrant : config.CanGrant := Config.canGrant_of_validOctets (by decide +kernel)
  have hannounces := announces_exchanges config hgrant script.backend
    (⟨.epoch, []⟩ : Rehearsal.Stage) [.getToken]
  have hheld : held.credential.isBlank = false := by decide +kernel +zetaReduce
  have hcalm : Calm config held.credential (log config script.backend later held) := by
    decide +kernel +zetaReduce
  refine ⟨hgrant, hannounces, hannounces.undisturbed later hheld ?_ hcalm⟩
  simp [later]

end Session
end BearerClient
