import BearerClient.Program

/-!
# Calls, question by question

A call is a program that may end with a failure.  These equations turn a call
written step by step into the program that it is: which question comes first,
and what follows each of its answers.
-/

namespace BearerClient

variable {α β : Type}

/-- Decisions one after the other succeed if each of them does. -/
theorem decided_bind_eq_ok {first : Except Failure α}
    {next : α → Except Failure β} {b : β} :
    (first >>= next) = .ok b ↔ ∃ a, first = .ok a ∧ next a = .ok b := by
  cases first with
  | error failure => simp [bind, Except.bind]
  | ok a => simp [bind, Except.bind]

/-- Decisions one after the other fail with the first failure. -/
theorem decided_bind_eq_error {first : Except Failure α}
    {next : α → Except Failure β} {failure : Failure} :
    (first >>= next) = .error failure ↔
      first = .error failure ∨ ∃ a, first = .ok a ∧ next a = .error failure := by
  cases first with
  | error fault => simp [bind, Except.bind]
  | ok a => simp [bind, Except.bind]

namespace Program

/-- Programs that ask the same agree if they go on alike. -/
theorem ask_congr {query : Query} {next next' : query.Answer → Program α}
    (hnext : ∀ answer, next answer = next' answer) :
    ask query next = ask query next' :=
  congrArg (ask query) (funext hnext)

theorem bind_congr {program : Program α} {f g : α → Program β}
    (hrest : ∀ a, f a = g a) : program.bind f = program.bind g :=
  congrArg program.bind (funext hrest)

end Program

namespace Call

theorem run_bind (call : Call α) (f : α → Call β) :
    (call >>= f).run = call.run.bind (ExceptT.bindCont f) := rfl

@[simp] theorem run_ask_bind (query : Query) (f : query.Answer → Call β) :
    (ask query >>= f).run = .ask query fun answer => (f answer).run := rfl

@[simp] theorem run_decided_bind (decided : Except Failure α) (f : α → Call β) :
    ((decided : Call α) >>= f).run =
      match decided with
      | .ok a => (f a).run
      | .error failure => .done (.error failure) := by
  cases decided <;> rfl

theorem run_send_bind (request : Wire.Request) (f : Wire.Response → Call β) :
    (send request >>= f).run = .ask (.send request) fun answer =>
      match answer with
      | .ok response => (f response).run
      | .error source => .done (.error (.ofTransport source)) := by
  apply Program.ask_congr
  intro answer
  cases answer <;> rfl

theorem run_locked (call : Call α) :
    (locked call).run =
      .ask .lock fun _ => call.run.bind fun result =>
        .ask .unlock fun _ => .done result := rfl

end Call
end BearerClient
