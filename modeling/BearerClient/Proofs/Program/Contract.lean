import BearerClient.Proofs.Program.Calls
import BearerClient.Proofs.Program.Events

/-!
# Contracts

A contract says what a program may ask, given what it has asked so far and the
credential that is stored, and what holds when it ends.  A program obeys a
contract if it does so whatever it is answered; only the question for the
stored credential has a fixed answer.  So every run of an obedient program,
against any backend, asks only what it may and ends as it should.
-/

namespace BearerClient

namespace Query

/-- The credential that is stored after a question. -/
def leaves (stored : Credential) : Query → Credential
  | .replace written => written
  | _ => stored

/-- The answers that a question can have while a credential is stored. -/
def Allows (stored : Credential) : (query : Query) → query.Answer → Prop
  | .credential, answer => answer = stored
  | _, _ => True

end Query

/-- What may be asked after some events, while a credential is stored. -/
abbrev Asks := List Event → Credential → Query → Prop

/-- What holds at the end: of all events, the stored credential and the result,
which is missing if the program breaks off. -/
abbrev Ends (α : Type) := List Event → Credential → Option α → Prop

namespace Program

variable {σ α β : Type}

/-- The program asks and ends as it should, after some events and while a
credential is stored. -/
def Obeys (asks : Asks) (ends : Ends α) : Program α → List Event → Credential → Prop
  | done a, log, stored => ends log stored (some a)
  | abort, log, stored => ends log stored none
  | ask query next, log, stored =>
    asks log stored query ∧
      ∀ answer, query.Allows stored answer →
        (next answer).Obeys asks ends (log ++ [⟨stored, query, answer⟩])
          (query.leaves stored)

/-- What has to hold where a program goes on with a result. -/
def Then (asks : Asks) (ends : Ends β) (f : α → Program β) : Ends α
  | log, stored, some a => (f a).Obeys asks ends log stored
  | log, stored, none => ends log stored none

theorem obeys_bind {asks : Asks} {ends : Ends β} {program : Program α}
    {f : α → Program β} {log : List Event} {stored : Credential} :
    (program.bind f).Obeys asks ends log stored ↔
      program.Obeys asks (Then asks ends f) log stored := by
  induction program generalizing log stored with
  | done a => rfl
  | abort => rfl
  | ask query next ih => simp only [bind, Obeys, ih]

theorem Obeys.mono {asks asks' : Asks} {ends ends' : Ends α}
    {program : Program α} {log : List Event} {stored : Credential}
    (hprogram : program.Obeys asks ends log stored)
    (hasks : ∀ log stored query, asks log stored query → asks' log stored query)
    (hends : ∀ log stored result,
      ends log stored result → ends' log stored result) :
    program.Obeys asks' ends' log stored := by
  induction program generalizing log stored with
  | done a => exact hends _ _ _ hprogram
  | abort => exact hends _ _ _ hprogram
  | ask query next ih =>
      obtain ⟨hquery, hnext⟩ := hprogram
      exact ⟨hasks _ _ _ hquery,
        fun answer hanswer => ih answer (hnext answer hanswer)⟩

/-- A program that is given up keeps what each of its questions keeps. -/
theorem Obeys.cutOff {asks : Asks} {ends : Ends α} {program : Program α}
    {log : List Event} {stored : Credential}
    (inv : List Event → Credential → Prop) (questions : Nat)
    (hprogram : program.Obeys asks ends log stored) (hinv : inv log stored)
    (hasks : ∀ log stored query answer, asks log stored query →
      query.Allows stored answer →
        inv (log ++ [⟨stored, query, answer⟩]) (query.leaves stored)) :
    (program.cutOff questions).Obeys asks (fun log stored _ => inv log stored)
      log stored := by
  induction program generalizing questions log stored with
  | done a => cases questions <;> exact hinv
  | abort => cases questions <;> exact hinv
  | ask query next ih =>
      cases questions with
      | zero => exact hinv
      | succ questions =>
          obtain ⟨hquery, hnext⟩ := hprogram
          exact ⟨hquery, fun answer hanswer =>
            ih answer questions (hnext answer hanswer)
              (hasks log stored query answer hquery hanswer)⟩

/-! ## Runs of obedient programs -/

variable (backend : Backend σ)

theorem allows_answer (world : World σ) (query : Query) :
    query.Allows world.credential (world.answer backend query).1 := by
  cases query <;> simp [Query.Allows, World.answer]

theorem answer_credential (world : World σ) (query : Query) :
    (world.answer backend query).2.credential =
      query.leaves world.credential := by
  cases query <;> simp [Query.leaves, World.answer]

/-- Every question of a run is one that may be asked after those before it. -/
theorem Obeys.asks_of_events {asks : Asks} {ends : Ends α}
    {program : Program α} {world : World σ} {log before after : List Event}
    {event : Event}
    (hprogram : program.Obeys asks ends log world.credential)
    (hevents : program.events backend world = before ++ event :: after) :
    asks (log ++ before) event.stored event.query := by
  -- Each question moves from what is still to come to the end of the log.
  induction program generalizing world log before with
  | done a => simp [events] at hevents
  | abort => simp [events] at hevents
  | ask query next ih =>
      obtain ⟨hquery, hnext⟩ := hprogram
      cases before with
      | nil =>
          simp only [events, List.nil_append, List.cons.injEq] at hevents
          obtain ⟨rfl, -⟩ := hevents
          simpa using hquery
      | cons first before =>
          simp only [events, List.cons_append, List.cons.injEq] at hevents
          obtain ⟨rfl, hevents⟩ := hevents
          have hanswer := hnext _ (allows_answer backend world query)
          rw [← answer_credential backend] at hanswer
          simpa using ih _ hanswer hevents

theorem Obeys.ends_of_run {asks : Asks} {ends : Ends α}
    {program : Program α} {world : World σ} {log : List Event}
    (hprogram : program.Obeys asks ends log world.credential) :
    ends (log ++ program.events backend world)
      (program.run backend world).2.credential
      (program.run backend world).1 := by
  induction program generalizing world log with
  | done a => simpa [events, run, Obeys] using hprogram
  | abort => simpa [events, run, Obeys] using hprogram
  | ask query next ih =>
      obtain ⟨-, hnext⟩ := hprogram
      have hanswer := hnext _ (allows_answer backend world query)
      rw [← answer_credential backend] at hanswer
      simpa [events, run] using ih _ hanswer

end Program

/-! ## Calls -/

namespace Call

variable {α β : Type} {asks : Asks} {log : List Event} {stored : Credential}

/-- What has to hold where a call goes on with a result; a failure ends it. -/
def Then (asks : Asks) (ends : Ends (Except Failure β)) (f : α → Call β) :
    Ends (Except Failure α)
  | log, stored, some (.ok a) => (f a).run.Obeys asks ends log stored
  | log, stored, some (.error failure) => ends log stored (some (.error failure))
  | log, stored, none => ends log stored none

theorem obeys_bind {ends : Ends (Except Failure β)} {call : Call α}
    {f : α → Call β} :
    (call >>= f).run.Obeys asks ends log stored ↔
      call.run.Obeys asks (Then asks ends f) log stored := by
  have hthen :
      Program.Then asks ends (ExceptT.bindCont f) = Then asks ends f := by
    funext log stored result
    rcases result with _ | failure | a <;> rfl
  rw [← hthen]
  exact Program.obeys_bind

/-- What has to hold before the lock is given back. -/
def Unlocking (asks : Asks) (ends : Ends (Except Failure α)) :
    Ends (Except Failure α)
  | log, stored, some result =>
    asks log stored .unlock ∧
      ends (log ++ [⟨stored, .unlock, ()⟩]) stored (some result)
  | log, stored, none => ends log stored none

theorem obeys_locked {ends : Ends (Except Failure α)} {call : Call α} :
    (Call.locked call).run.Obeys asks ends log stored ↔
      asks log stored .lock ∧
        call.run.Obeys asks (Unlocking asks ends)
          (log ++ [⟨stored, .lock, ()⟩]) stored := by
  have hthen :
      Program.Then asks ends
        (fun result => .ask .unlock fun _ => .done result) =
          Unlocking asks ends := by
    funext log stored result
    cases result with
    | none => rfl
    | some result =>
        apply propext
        constructor
        · intro ⟨hunlock, hdone⟩
          exact ⟨hunlock, hdone () trivial⟩
        · intro ⟨hunlock, hdone⟩
          exact ⟨hunlock, fun _ _ => hdone⟩
  rw [run_locked, ← hthen, ← Program.obeys_bind]
  constructor
  · intro ⟨hlock, hnext⟩
    exact ⟨hlock, hnext () trivial⟩
  · intro ⟨hlock, hnext⟩
    exact ⟨hlock, fun _ _ => hnext⟩

end Call
end BearerClient
