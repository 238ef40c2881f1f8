import BearerClient.Proofs.Credential.Complete
import BearerClient.Proofs.Meeting.Tasks
import BearerClient.Renewal

/-!
# What a party knows

A party at a store is watched as it asks: whether it holds the lock, and what it has seen
of the credential.  Its role says what it may do with that knowledge.  A caller takes the
lock when it likes, and clears the credential if it revokes.  The task that renews in the
background takes the lock only after it has seen a token, without having slept in
between, and it sends nothing but the exchange that is owed to what it has read under the
lock.

The parties keep to their roles whatever they are answered, so also when others change
the credential between two of their questions.
-/

namespace BearerClient

/-- The exchange that a credential is owed once it is due: without a token a first one is
obtained. -/
def Exchange.owed (credential : Credential) : Exchange :=
  if credential.isBlank then acquire else renewal credential

/-- The request that carries out the exchange owed to a credential. -/
def Config.Owes (config : Config) (credential : Credential) (request : Wire.Request) : Prop :=
  config.grantRequest (Exchange.owed credential).endpoint
    ((Exchange.owed credential).grant config.login) = .ok request

/-- How far a party has come. -/
inductive Watch where
  /-- without the lock, and without having seen a token since it last slept -/
  | away
  /-- without the lock, and having seen a token since then -/
  | aware
  /-- with the lock -/
  | inside
  /-- with the lock, and having read what is stored -/
  | informed (credential : Credential)
  /-- with the lock, and having sent or written something -/
  | served

namespace Watch

def holds : Watch → Bool
  | away | aware => false
  | _ => true

def sees (seen : Credential) : Watch → Watch
  | away => if seen.isBlank then away else aware
  | aware => aware
  | inside | informed _ => informed seen
  | served => served

def after (watch : Watch) : (query : Query) → query.Answer → Watch
  | .credential, seen => watch.sees seen
  | .wait _, _ | .unlock, _ => away
  | .lock, _ => inside
  | .replace _, _ | .send _, _ => served
  | .now, _ => watch

/-- The party is to end without the lock. -/
abbrev released {α : Type} (watch : Watch) (_ : α) : Prop := watch.holds = false

theorem holds_sees (seen : Credential) (watch : Watch) :
    (watch.sees seen).holds = watch.holds := by
  cases watch with
  | away => by_cases hblank : seen.isBlank = true <;> simp [sees, hblank, holds]
  | _ => rfl

end Watch

/-- What a party may do. -/
structure Role where
  mayLock : Watch → Prop := fun _ => True
  maySend : Watch → Wire.Request → Prop := fun _ _ => True
  mayClear : Prop

namespace Role

/-- What may be asked by a party that has come so far.  Only with the lock is anything
sent or written, and nobody sleeps with it. -/
def Allows (role : Role) (watch : Watch) : Query → Prop
  | .lock => watch.holds = false ∧ role.mayLock watch
  | .unlock => watch.holds = true
  | .replace written => watch.holds = true ∧ (written.isBlank = true → role.mayClear)
  | .send request => watch.holds = true ∧ role.maySend watch request
  | .wait _ => watch.holds = false
  | .now | .credential => True

/-- A task in the background, which only renews. -/
def renewing (config : Config) : Role where
  mayLock watch := watch = .aware
  maySend watch request := ∃ credential, watch = .informed credential ∧
    config.Owes credential request
  mayClear := False

/-- The caller of some tasks. -/
def calling (tasks : List Store.Task) : Role where
  mayClear := Store.Task.revoke ∈ tasks

end Role

/-! ## Keeping to a role -/

namespace Program

variable {α β : Type} {role : Role} {watch : Watch}

/-- The program keeps to a role, and ends as it should. -/
def Keeps (role : Role) (ends : Watch → α → Prop) : Program α → Watch → Prop
  | done a, watch => ends watch a
  | abort, _ => True
  | ask query next, watch =>
    role.Allows watch query ∧
      ∀ answer, (next answer).Keeps role ends (watch.after query answer)

theorem Keeps.mono {ends ends' : Watch → α → Prop} {program : Program α}
    (hprogram : program.Keeps role ends watch)
    (hends : ∀ watch a, ends watch a → ends' watch a) :
    program.Keeps role ends' watch := by
  induction program generalizing watch with
  | done a => exact hends watch a hprogram
  | abort => trivial
  | ask query next ih =>
      obtain ⟨hquery, hnext⟩ := hprogram
      exact ⟨hquery, fun answer => ih answer (hnext answer)⟩

theorem Keeps.bind {ends : Watch → α → Prop} {ends' : Watch → β → Prop}
    {program : Program α} {f : α → Program β} (hprogram : program.Keeps role ends watch)
    (hf : ∀ watch a, ends watch a → (f a).Keeps role ends' watch) :
    (program.bind f).Keeps role ends' watch := by
  induction program generalizing watch with
  | done a => exact hf watch a hprogram
  | abort => trivial
  | ask query next ih =>
      obtain ⟨hquery, hnext⟩ := hprogram
      exact ⟨hquery, fun answer => ih answer (hnext answer)⟩

end Program

namespace Call

variable {α β : Type} {role : Role} {watch : Watch}

/-- The call keeps to a role with the lock in hand, and ends as it should unless it
fails. -/
def Serves (role : Role) (ends : Watch → α → Prop) (call : Call α) (watch : Watch) : Prop :=
  call.run.Keeps role
    (fun watch result => watch.holds = true ∧ ∀ a, result = .ok a → ends watch a) watch

theorem Serves.bind {ends : Watch → α → Prop} {ends' : Watch → β → Prop} {call : Call α}
    {f : α → Call β} (hcall : call.Serves role ends watch)
    (hf : ∀ watch a, watch.holds = true → ends watch a → (f a).Serves role ends' watch) :
    (call >>= f).Serves role ends' watch := by
  refine Program.Keeps.bind hcall fun watch result hresult => ?_
  obtain ⟨hholds, hends⟩ := hresult
  -- A failure skips what follows, and the lock is still held.
  cases result with
  | error failure => exact ⟨hholds, by simp⟩
  | ok a => exact hf watch a hholds (hends a rfl)

theorem serves_pure {ends : Watch → α → Prop} {a : α} (hholds : watch.holds = true)
    (hends : ends watch a) : (pure a : Call α).Serves role ends watch :=
  ⟨hholds, fun _ heq => Except.ok.inj heq ▸ hends⟩

theorem keeps_locked {ends : Watch → α → Prop} {call : Call α}
    (hlock : role.Allows watch .lock) (hcall : call.Serves role ends .inside) :
    (locked call).run.Keeps role Watch.released watch := by
  rw [run_locked]
  have hreleased : (call.run.bind fun result => .ask .unlock fun _ => .done result).Keeps
      role Watch.released .inside := by
    refine Program.Keeps.bind hcall fun watch result hresult => ?_
    exact ⟨hresult.1, fun _ => rfl⟩
  exact ⟨hlock, fun _ => hreleased⟩

end Call

/-! ## Meetings -/

section Meetings

variable {ι : Type} {α : ι → Type} {i j : ι}

theorem Query.Passes.others {query : Query} {before after : Option ι}
    (hpasses : query.Passes i before after) (hother : j ≠ i) :
    before = some j ↔ after = some j := by
  cases query with
  | lock =>
      obtain ⟨rfl, rfl⟩ := hpasses
      simp [hother.symm]
  | unlock =>
      obtain ⟨rfl, rfl⟩ := hpasses
      simp [hother.symm]
  | _ => exact hpasses ▸ Iff.rfl

/-- The watch on a party knows whether the party holds the lock. -/
theorem Role.Allows.holds_after {role : Role} {watch : Watch} {query : Query}
    {before after : Option ι} (hallows : role.Allows watch query)
    (hpasses : query.Passes i before after)
    (hholds : watch.holds = true ↔ before = some i) (answer : query.Answer) :
    (watch.after query answer).holds = true ↔ after = some i := by
  cases query with
  | lock => exact ⟨fun _ => hpasses.2, fun _ => rfl⟩
  | unlock =>
      rw [hpasses.2]
      exact ⟨nofun, nofun⟩
  | wait time =>
      have hfree : watch.holds = false := hallows
      rw [hpasses, ← hholds, hfree]
      exact Iff.rfl
  | replace written =>
      rw [hpasses, ← hholds, hallows.1]
      exact Iff.rfl
  | send request =>
      rw [hpasses, ← hholds, hallows.1]
      exact Iff.rfl
  | now => exact hpasses ▸ hholds
  | credential =>
      rw [hpasses, ← hholds]
      exact Eq.congr_left (watch.holds_sees answer)

variable {roles : ι → Role} {meeting final : Meeting α} {watches : ι → Watch}

/-- All parties keep to their roles from here on. -/
structure Meeting.Watched (roles : ι → Role) (meeting : Meeting α) (watches : ι → Watch) :
    Prop where
  keeps : ∀ i, (meeting.stances i).rest.Keeps (roles i) (fun _ _ => True) (watches i)
  holds : ∀ i, (watches i).holds = true ↔ meeting.holder = some i

namespace Meeting.Watched

theorem allows (hwatched : meeting.Watched roles watches) {query : Query}
    {next : query.Answer → Program (α i)}
    (hrest : (meeting.stances i).rest = .ask query next) :
    (roles i).Allows (watches i) query := by
  have hkeeps := hwatched.keeps i
  rw [hrest] at hkeeps
  exact hkeeps.1

variable [DecidableEq ι]

theorem answers (hwatched : meeting.Watched roles watches) {query : Query}
    {next : query.Answer → Program (α i)} {answer : query.Answer}
    (hanswers : Meeting.Answers meeting i query next answer final) :
    final.Watched roles
      (Function.update watches i ((watches i).after query answer)) := by
  refine ⟨fun j => ?_, fun j => ?_⟩
  · by_cases hsame : j = i
    · subst hsame
      have hkeeps := hwatched.keeps j
      rw [hanswers.rest] at hkeeps
      rw [hanswers.stances, Function.update_self, Function.update_self]
      exact hkeeps.2 answer
    · rw [hanswers.stances, Function.update_of_ne hsame, Function.update_of_ne hsame]
      exact hwatched.keeps j
  · by_cases hsame : j = i
    · subst hsame
      rw [Function.update_self]
      exact (hwatched.allows hanswers.rest).holds_after hanswers.passes (hwatched.holds j) answer
    · rw [Function.update_of_ne hsame]
      exact (hwatched.holds j).trans (hanswers.passes.others hsame)

theorem sends (hwatched : meeting.Watched roles watches) {request : Wire.Request}
    (hsends : Meeting.Sends meeting i request final) : final.Watched roles watches := by
  refine ⟨fun j => ?_, fun j => hsends.holder ▸ hwatched.holds j⟩
  by_cases hsame : j = i
  · subst hsame
    exact hsends.keeps ▸ hwatched.keeps j
  · rw [hsends.stances j hsame]
    exact hwatched.keeps j

end Meeting.Watched

end Meetings

/-! ## The store -/

namespace Store

variable {config : Config} {role : Role} {watch : Watch}

theorem settle_serves {received : Except Failure TokenAnswer} (hholds : watch.holds = true) :
    Call.Serves role (fun _ _ => True) (ExceptT.mk (settle received)) watch := by
  cases received with
  | error failure => exact ⟨hholds, fun _ _ => trivial⟩
  | ok answer =>
      refine ⟨trivial, fun now => ?_⟩
      cases hissued : Credential.ofAnswer answer now with
      | error failure =>
          simp only [hissued]
          exact ⟨hholds, fun _ _ => trivial⟩
      | ok credential =>
          have hheld : credential.isBlank = false :=
            (Credential.ofAnswer_complete hissued).token
          simp only [hissued]
          refine ⟨⟨hholds, fun hblank => ?_⟩, fun _ => ⟨rfl, fun _ _ => trivial⟩⟩
          rw [hheld] at hblank
          cases hblank

theorem perform_serves {exchange : Exchange} (hholds : watch.holds = true)
    (hsend : ∀ request, config.grantRequest exchange.endpoint
      (exchange.grant config.login) = .ok request → role.maySend watch request) :
    (perform config exchange).Serves role (fun _ _ => True) watch := by
  unfold Call.Serves
  rw [perform_run]
  cases hrequest : config.grantRequest exchange.endpoint (exchange.grant config.login) with
  | error failure => exact ⟨hholds, fun _ _ => trivial⟩
  | ok request => exact ⟨⟨hholds, hsend request hrequest⟩, fun _ => settle_serves rfl⟩

/-- A decision is for the exchange that is owed to what was read. -/
theorem decision_serves (role : Role) (due : Credential → Instant → Bool) :
    Call.Serves role (fun watch decided => ∃ credential, watch = .informed credential ∧
      ∀ exchange, decided = some exchange → exchange = .owed credential)
      (ExceptT.mk (decision due)) .inside := by
  refine ⟨trivial, fun credential => ?_⟩
  by_cases hblank : credential.isBlank = true
  · simp only [hblank, if_true]
    refine ⟨rfl, fun decided hdecided => ⟨credential, rfl, fun exchange hexchange => ?_⟩⟩
    cases hdecided
    cases hexchange
    simp [Exchange.owed, hblank]
  · simp only [hblank]
    refine ⟨trivial, fun now => ⟨rfl, fun decided hdecided => ⟨credential, rfl, ?_⟩⟩⟩
    intro exchange hexchange
    obtain rfl := Except.ok.inj hdecided
    by_cases hdue : due credential now = true
    · simp only [hdue, if_true, Option.some.injEq] at hexchange
      simp [Exchange.owed, hblank, ← hexchange]
    · simp [hdue] at hexchange

/-- What was decided is carried out. -/
theorem decided_serves {due : Credential → Instant → Bool} {decide : Call (Option Exchange)}
    (hdecide : decide.run = decision due)
    (hsend : ∀ credential request, config.Owes credential request →
      role.maySend (.informed credential) request) :
    (decide >>= performAny config).Serves role (fun _ _ => True) .inside := by
  have hdecision := decision_serves role due
  rw [← hdecide] at hdecision
  refine Call.Serves.bind hdecision fun watch decided hholds hends => ?_
  obtain ⟨credential, rfl, howed⟩ := hends
  cases decided with
  | none => exact Call.serves_pure hholds trivial
  | some exchange =>
      obtain rfl := howed exchange rfl
      exact perform_serves hholds (hsend credential)

/-- A token is obtained as it is owed to what is read under the lock. -/
theorem getToken_keeps (hlock : role.Allows watch .lock)
    (hsend : ∀ credential request, config.Owes credential request →
      role.maySend (.informed credential) request) :
    (getToken config).run.Keeps role Watch.released watch := by
  have hexchange : Call.Serves role (fun _ _ => True)
      (exchangeForToken config >>= performAny config) .inside :=
    decided_serves (exchangeForToken_run config) hsend
  have hbody : (exchangeForToken config >>= fun exchange =>
      performAny config exchange >>= fun _ =>
        Call.ask .credential >>= fun credential => pure credential.token).Serves role
          (fun _ _ => True) .inside := by
    rw [← bind_assoc]
    refine hexchange.bind fun watch _ hholds _ => ⟨trivial, fun seen => ⟨?_, by simp⟩⟩
    exact (watch.holds_sees seen).trans hholds
  exact Call.keeps_locked hlock hbody

/-! ### Callers -/

section Calling

variable {tasks : List Task}

theorem revoke_keeps (hrevoke : Task.revoke ∈ tasks) (hfree : watch.holds = false) :
    (revoke config).run.Keeps (.calling tasks) Watch.released watch := by
  rw [revoke_run]
  refine ⟨⟨hfree, trivial⟩, fun _ => ⟨trivial, fun credential => ?_⟩⟩
  dsimp only
  cases Credential.refreshToken credential with
  | none => exact ⟨⟨rfl, fun _ => hrevoke⟩, fun _ => ⟨rfl, fun _ => rfl⟩⟩
  | some refreshToken =>
      dsimp only
      cases config.grantRequest .revoke (config.login.refreshGrant refreshToken) with
      | error failure => exact ⟨rfl, fun _ => rfl⟩
      | ok request =>
          refine ⟨⟨rfl, trivial⟩, fun answer => ⟨⟨rfl, fun _ => hrevoke⟩, fun _ => ?_⟩⟩
          exact ⟨rfl, fun _ => rfl⟩

/-- Each task of a caller takes the lock and gives it back, or does without it. -/
theorem Task.keeps {task : Task} (htask : task ∈ tasks) (hfree : watch.holds = false) :
    (task.program config).Keeps (.calling tasks) Watch.released watch := by
  have hlock : (Role.calling tasks).Allows watch .lock := ⟨hfree, trivial⟩
  have hseen : ∀ seen, (watch.sees seen).holds = false := fun seen =>
    (watch.holds_sees seen).trans hfree
  cases task with
  | getToken => exact getToken_keeps hlock fun _ _ _ => trivial
  | refresh =>
      have hexchange : Call.Serves (.calling tasks) (fun _ _ => True)
          (exchangeForRefresh config >>= performAny config) .inside :=
        decided_serves (exchangeForRefresh_run config) fun _ _ _ => trivial
      exact Call.keeps_locked hlock hexchange
  | acquire => exact Call.keeps_locked hlock (perform_serves rfl fun _ _ => trivial)
  | revoke => exact revoke_keeps htask hfree
  | snapshot => exact ⟨trivial, hseen⟩
  | threshold => exact ⟨trivial, hseen⟩
  | authenticated => exact ⟨trivial, hseen⟩

/-- Some tasks, one after another. -/
def Task.sequence (config : Config) : List Task → Program Unit
  | [] => .done ()
  | task :: rest => (task.program config).bind fun _ => sequence config rest

theorem Task.sequence_keeps {left : List Task} (hleft : left ⊆ tasks)
    (hfree : watch.holds = false) :
    (Task.sequence config left).Keeps (.calling tasks) Watch.released watch := by
  induction left generalizing watch with
  | nil => exact hfree
  | cons task rest ih =>
      obtain ⟨htask, hrest⟩ := List.cons_subset.1 hleft
      exact (Task.keeps htask hfree).bind fun _ _ hfree => ih hrest hfree

end Calling

/-! ### What is seen without the lock -/

theorem untilRefresh_keeps (hfree : watch.holds = false) :
    (untilRefresh config).Keeps role Watch.released watch := by
  refine ⟨trivial, fun seen => ?_⟩
  have hseen : (watch.sees seen).holds = false := (watch.holds_sees seen).trans hfree
  simp only [Program.bind]
  cases seen.threshold config.refreshMargin with
  | none => exact hseen
  | some threshold => exact ⟨trivial, fun _ => hseen⟩

theorem authenticated_keeps (hfree : watch.holds = false) :
    authenticated.Keeps role
      (fun watch held => watch.holds = false ∧ (held = true → watch = .aware)) watch := by
  refine ⟨trivial, fun seen => ⟨(watch.holds_sees seen).trans hfree, fun hheld => ?_⟩⟩
  have hseen : seen.isBlank = false := by simpa using hheld
  cases watch with
  | away => simp [Watch.after, Watch.sees, hseen]
  | aware => rfl
  | _ => cases hfree

theorem needsRenewal_keeps :
    (needsRenewal config).Keeps role (fun watch _ => watch = .aware) .aware :=
  ⟨trivial, fun _ => ⟨trivial, fun _ => rfl⟩⟩

end Store
end BearerClient
