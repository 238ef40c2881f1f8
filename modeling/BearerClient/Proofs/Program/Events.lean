import BearerClient.Program

/-!
# What a program asks

A run leaves a list of events, one for each question: the question, its answer
and the credential that was stored when it was asked.  The events of a program
that goes on with the result of another are those of the two, one after the
other, and the requests among them are the ones that the world has seen sent.
-/

namespace BearerClient

/-- The request that a question sends, if it sends one. -/
def Query.request? : Query → Option Wire.Request
  | .send request => some request
  | _ => none

/-- One question of a run. -/
structure Event where
  /-- the credential that was stored when it was asked -/
  stored : Credential
  query : Query
  answer : query.Answer

/-- The requests that were sent, in order. -/
def Event.requests (events : List Event) : List Wire.Request :=
  events.filterMap fun event => event.query.request?

@[simp] theorem Event.requests_nil : Event.requests [] = [] := rfl

theorem Event.requests_cons (event : Event) (events : List Event) :
    Event.requests (event :: events) =
      event.query.request?.toList ++ Event.requests events := by
  cases hrequest : event.query.request? <;>
    simp [Event.requests, hrequest]

theorem Event.requests_append (first second : List Event) :
    Event.requests (first ++ second) =
      Event.requests first ++ Event.requests second :=
  List.filterMap_append

namespace Program

variable {σ α β : Type} (backend : Backend σ)

/-- The events of a run, in order. -/
def events : Program α → World σ → List Event
  | done _, _ => []
  | abort, _ => []
  | ask query next, world =>
    ⟨world.credential, query, (world.answer backend query).1⟩ ::
      (next (world.answer backend query).1).events (world.answer backend query).2

/-- The events of what follows a result, if there is one. -/
def eventsAfter (f : α → Program β) : Option α × World σ → List Event
  | (some a, world) => (f a).events backend world
  | (none, _) => []

theorem events_bind (program : Program α) (f : α → Program β) (world : World σ) :
    (program.bind f).events backend world =
      program.events backend world ++
        eventsAfter backend f (program.run backend world) := by
  induction program generalizing world with
  | done a => rfl
  | abort => rfl
  | ask query next ih =>
      simp only [bind, events, run, List.cons_append]
      rw [ih]

theorem answer_sent (world : World σ) (query : Query) :
    (world.answer backend query).2.sent =
      world.sent ++ query.request?.toList := by
  cases query <;> simp [World.answer, Query.request?]

/-- The requests of a run are added to those that were sent before. -/
theorem run_sent (program : Program α) (world : World σ) :
    (program.run backend world).2.sent =
      world.sent ++ Event.requests (program.events backend world) := by
  induction program generalizing world with
  | done a => simp [run, events]
  | abort => simp [run, events]
  | ask query next ih =>
      simp only [run, events, Event.requests_cons]
      rw [ih, answer_sent, List.append_assoc]

end Program
end BearerClient
