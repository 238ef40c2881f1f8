import BearerClient.Proofs.Meeting.Serial
import BearerClient.Proofs.Store.Exchange

/-!
# Meetings at the store

The calls of a store that take the lock write once at most while they hold it, and
what is seen without the lock is seen at one look.  So whoever meets at a store,
the outcome is that of the same calls made one after another in the order in which
they took the lock.
-/

namespace BearerClient

open Program

theorem Call.isBody_bind {α β : Type} {call : Call α} {f : α → Call β}
    (writes writes' : Nat) (hcall : call.run.IsBody writes)
    (hf : ∀ a, (f a).run.IsBody writes') :
    (call >>= f).run.IsBody (writes + writes') := by
  refine hcall.bind fun result => ?_
  cases result with
  | error failure => trivial
  | ok a => exact hf a

theorem Call.attends_locked {α : Type} {call : Call α}
    (hbody : call.run.IsBody 1) : (Call.locked call).run.Attends :=
  .turn hbody

namespace Store

/-- What a party wants of the store. -/
inductive Task where
  | getToken
  | refresh
  | acquire
  | revoke
  | snapshot
  | threshold
  | authenticated

namespace Task

abbrev Result : Task → Type
  | getToken => Except Failure String
  | refresh | acquire | revoke => Except Failure Unit
  | snapshot => Credential
  | threshold => Option Instant
  | authenticated => Bool

def program (config : Config) : (task : Task) → Program task.Result
  | getToken => (Store.getToken config).run
  | refresh => (Store.refresh config).run
  | acquire => (Store.acquire config).run
  | revoke => (Store.revoke config).run
  | snapshot => Program.query .credential
  | threshold => Store.threshold config
  | authenticated => Store.authenticated

/-- The task is a call, which takes the lock. -/
def IsCall : Task → Prop
  | getToken | refresh | acquire | revoke => True
  | snapshot | threshold | authenticated => False

end Task

/-! ## Calls write once at most -/

variable (config : Config)

theorem settle_isBody (received : Except Failure TokenAnswer) :
    (settle received).IsBody 1 := by
  cases received with
  | error failure => trivial
  | ok answer =>
      refine ⟨id, Nat.zero_le _, fun now => ?_⟩
      cases hcredential : Credential.ofAnswer answer now with
      | error failure => simp [hcredential, IsBody]
      | ok credential =>
          simp only [hcredential]
          exact ⟨id, Nat.le_refl _, fun _ => trivial⟩

theorem perform_isBody (exchange : Exchange) :
    (perform config exchange).run.IsBody 1 := by
  rw [perform_run]
  cases config.grantRequest exchange.endpoint (exchange.grant config.login) with
  | error failure => trivial
  | ok request => exact ⟨id, Nat.zero_le _, fun _ => settle_isBody _⟩

theorem performAny_isBody (exchange : Option Exchange) :
    (performAny config exchange).run.IsBody 1 := by
  cases exchange with
  | none => trivial
  | some exchange => exact perform_isBody config exchange

theorem decision_isBody (due : Credential → Instant → Bool) :
    (decision due).IsBody 0 := by
  refine ⟨id, Nat.le_refl _, fun credential => ?_⟩
  by_cases hblank : credential.isBlank = true
  · simp only [hblank, if_true]
    trivial
  · simp only [hblank]
    exact ⟨id, Nat.le_refl _, fun _ => trivial⟩

theorem ask_credential_isBody : (Call.ask .credential).run.IsBody 0 :=
  ⟨id, Nat.le_refl _, fun _ => trivial⟩

theorem revoke_attends : (revoke config).run.Attends := by
  unfold revoke
  apply Call.attends_locked
  apply Call.isBody_bind 0 1 ask_credential_isBody
  intro credential
  cases Credential.refreshToken credential with
  | none => exact ⟨id, Nat.le_refl _, fun _ => trivial⟩
  | some refreshToken =>
      simp only [Call.run_decided_bind]
      cases config.grantRequest .revoke (config.login.refreshGrant refreshToken) with
      | error failure => trivial
      | ok request =>
          refine ⟨id, Nat.zero_le _, fun answer => ⟨id, Nat.le_refl _, fun _ => ?_⟩⟩
          cases answer with
          | error source => trivial
          | ok response =>
              change (discard (liftM response.classifyCredential) :
                Call Unit).run.IsBody 0
              cases response.classifyCredential <;> trivial

theorem Task.attends (task : Task) : (task.program config).Attends := by
  cases task with
  | getToken =>
      have hexchange : (exchangeForToken config).run.IsBody 0 := by
        rw [exchangeForToken_run]
        exact decision_isBody _
      apply Call.attends_locked
      apply Call.isBody_bind 0 1 hexchange
      intro exchange
      apply Call.isBody_bind 1 0 (performAny_isBody config exchange)
      exact fun _ => Call.isBody_bind 0 0 ask_credential_isBody fun _ => trivial
  | refresh =>
      have hexchange : (exchangeForRefresh config).run.IsBody 0 := by
        rw [exchangeForRefresh_run]
        exact decision_isBody _
      apply Call.attends_locked
      exact Call.isBody_bind 0 1 hexchange (performAny_isBody config)
  | acquire => exact Call.attends_locked (perform_isBody config .acquire)
  | revoke => exact revoke_attends config
  | snapshot => exact .look id
  | threshold => exact .look _
  | authenticated => exact .look _

/-- A call takes the lock; all other tasks are a look. -/
theorem Task.locked_of_isCall {task : Task} (hcall : task.IsCall) :
    ∃ body, task.program config = locked body := by
  cases task with
  | snapshot => exact hcall.elim
  | threshold => exact hcall.elim
  | authenticated => exact hcall.elim
  | _ => exact ⟨_, rfl⟩

theorem Task.looking_of_not_isCall {task : Task} (hcall : ¬task.IsCall) :
    ∃ see, task.program config = looking see := by
  cases task with
  | snapshot => exact ⟨_, rfl⟩
  | threshold => exact ⟨_, rfl⟩
  | authenticated => exact ⟨_, rfl⟩
  | _ => exact absurd trivial hcall

/-! ## Serial equivalence -/

section Meetings

variable {ι : Type} [DecidableEq ι]

/-- The meeting comes to what the calls come to one after another, in the order in
which they took the lock, each against what came from outside in its own turn. -/
structure Serializes (tasks : ι → Task) (start : Credential) (trace : Trace ι)
    (meeting : Meeting fun i => (tasks i).Result) : Prop where
  /-- one request is in flight at most -/
  alone : ∀ i j, (meeting.stances i).flying ≠ [] →
    (meeting.stances j).flying ≠ [] → i = j
  nodup : trace.order.Nodup
  /-- a call that is at its end has the result, and leaves the world, of its turn -/
  result : ∀ i result, (tasks i).IsCall →
    meeting.stances i = .ready (.done result) →
      ∃ past later, trace.order = past ++ i :: later ∧
        ((tasks i).program config).run Reading.backend
            (trace.serial (fun i => (tasks i).program config) start past) =
          (some result,
            trace.serial (fun i => (tasks i).program config) start (past ++ [i]))
  /-- all that was sent and is stored, once nobody holds the lock -/
  outcome : meeting.holder = none →
    (trace.serial (fun i => (tasks i).program config) start
        trace.order).credential = meeting.credential ∧
      (trace.serial (fun i => (tasks i).program config) start
        trace.order).sent = meeting.sent
  /-- a look at the credential is one after the last turn that had begun by then, or
  before it -/
  look : meeting.holder = none → ∀ i seen, ¬(tasks i).IsCall →
    meeting.stances i = .ready (.done seen) →
      ∃ (before : Trace ι) (event : Event) (after : Trace ι) (past : List ι),
        trace = before ++ (i, event) :: after ∧
        (past = before.order ∨ ∃ j, before.order = past ++ [j]) ∧
        (((tasks i).program config).run Reading.backend
          (trace.serial (fun i => (tasks i).program config) start past)).1 =
            some seen
  /-- the party that holds the lock can be left to give it back -/
  completes : ∃ more final, Meeting.Run meeting more final ∧
    final.holder = none ∧ more.order = [] ∧
      ∀ i, meeting.holder ≠ some i → final.stances i = meeting.stances i

/-- However the steps of the parties at a store come one after another, the outcome
is that of a serial history. -/
theorem meeting_serializes (tasks : ι → Task) (start : Credential)
    {trace : Trace ι} {meeting : Meeting fun i => (tasks i).Result}
    (hrun : Meeting.Run
      (Meeting.opening (fun i => (tasks i).program config) start) trace meeting) :
    Serializes config tasks start trace meeting := by
  have horderly := hrun.orderly fun i => (tasks i).attends config
  exact {
    alone := by
      intro i j hi hj
      have hsame := (horderly.holder_of_flying hi).symm.trans
        (horderly.holder_of_flying hj)
      exact Option.some.inj hsame
    nodup := horderly.nodup
    result := by
      intro i result hcall hdone
      obtain ⟨body, hbody⟩ := Task.locked_of_isCall config hcall
      exact horderly.result (horderly.mem_order hbody hdone) hdone
    outcome := horderly.outcome
    look := by
      intro hfree i seen hcall hdone
      obtain ⟨see, hsee⟩ := Task.looking_of_not_isCall config hcall
      exact horderly.look hsee hfree hdone
    completes := horderly.completes }

end Meetings

/-- One party obtains a credential in vain, and looks are taken and a revocation
waits meanwhile. -/
theorem meeting_serializes_revoked :
    let config : Config :=
      { apiUrl := "https://api.test", login := ⟨"user", "secret", "id", "key"⟩ }
    let tasks : Fin 3 → Task := [.acquire, .revoke, .authenticated].get
    let start : Credential := { token := "held" }
    ∃ (trace : Trace (Fin 3)) (meeting : Meeting fun i => (tasks i).Result),
      Meeting.Run (Meeting.opening (fun i => (tasks i).program config) start)
          trace meeting ∧
        trace.order = [0, 1] ∧ meeting.holder = none ∧
        Serializes config tasks start trace meeting := by
  intro config tasks start
  have hvalid :
      (Text.utf8 config.userAgent).all HeaderValue.validOctet = true := by
    decide +kernel +zetaReduce
  obtain ⟨request, hrequest⟩ : ∃ request,
      config.grantRequest .app config.login.grant = .ok request := by
    rw [Config.grantRequest, Config.userAgentValue, HeaderValue.ofText?,
      HeaderValue.ofOctets?, if_pos hvalid]
    exact ⟨_, rfl⟩
  have hperform : (perform config .acquire).run =
      .ask (.send request) fun answer => settle (received .app answer) := by
    rw [perform_run]
    simp only [Exchange.endpoint, Exchange.grant, hrequest]
  clear_value config
  let leave (program : Program (Except Failure Unit)) :
      Stance (Except Failure Unit) := .ready (program.bind releasing)
  have hopened : Meeting.Run
      (Meeting.opening (fun i => (tasks i).program config) start) [] _ := .nil
  have hlocked := hopened.snoc
    (.ask 0 .lock (some 0) () rfl rfl ⟨rfl, rfl⟩ trivial)
  have hsent := hlocked.snoc
    (.send 0 request (congrArg leave hperform))
  have hlooked := hsent.snoc
    (.ask 2 .credential (some 0) start rfl rfl rfl rfl)
  have hfailed := hlooked.snoc (.receive 0 (.error Reading.silence) rfl)
  have hreleased := hfailed.snoc
    (.ask 0 .unlock none () rfl rfl ⟨rfl, rfl⟩ trivial)
  have htaken := hreleased.snoc
    (.ask 1 .lock (some 1) () rfl rfl ⟨rfl, rfl⟩ trivial)
  have hread := htaken.snoc
    (.ask 1 .credential (some 1) start rfl rfl rfl rfl)
  have hcleared := hread.snoc
    (.ask 1 (.replace .blank) (some 1) () rfl rfl rfl
      trivial)
  have hrevoked := hcleared.snoc
    (.ask 1 .unlock none () rfl rfl ⟨rfl, rfl⟩ trivial)
  exact ⟨_, _, hrevoked, rfl, rfl, meeting_serializes config tasks start hrevoked⟩

end Store
end BearerClient
