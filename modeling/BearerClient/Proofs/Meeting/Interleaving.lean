import Mathlib.Logic.Function.Basic
import BearerClient.Proofs.Program.Contract

/-!
# Meetings

Several parties share one store, one lock and one transport.  Each goes through
a program of its own, and at every moment any of them may take its next step:
have a question answered, send a request, or receive the answer to a request.
The lock is taken only while nobody holds it, and given back only by its holder;
nothing is assumed about who goes first or how long anything takes.

The trace of a meeting has all questions in the order in which they were
answered, each with the party that asked it.
-/

namespace BearerClient

/-- Where a party stands. -/
inductive Stance (α : Type) where
  /-- about to ask, or at its end -/
  | ready (program : Program α)
  /-- its request was sent and has not been answered yet -/
  | inFlight (request : Wire.Request)
      (next : Except TransportFault Wire.Response → Program α)

namespace Stance

variable {α : Type}

/-- What a party has still to ask; a request stays to be asked until it is
answered. -/
def rest : Stance α → Program α
  | ready program => program
  | inFlight request next => .ask (.send request) next

/-- The request that waits for its answer. -/
def flying : Stance α → List Wire.Request
  | ready _ => []
  | inFlight request _ => [request]

@[simp] theorem rest_ready (program : Program α) : (ready program).rest = program :=
  rfl

@[simp] theorem flying_ready (program : Program α) : (ready program).flying = [] :=
  rfl

end Stance

/-- Parties, each with results of its own, and what they share. -/
structure Meeting {ι : Type} (α : ι → Type) where
  stances : (i : ι) → Stance (α i)
  credential : Credential
  holder : Option ι := none
  sent : List Wire.Request := []

/-- The questions of a meeting, in the order of their answers. -/
abbrev Trace (ι : Type) := List (ι × Event)

variable {ι : Type} {α : ι → Type}

/-- How a question passes the lock on. -/
def Query.Passes (i : ι) (before after : Option ι) : Query → Prop
  | .lock => before = none ∧ after = some i
  | .unlock => before = some i ∧ after = none
  | _ => after = before

namespace Trace

/-- The parties in the order in which they took the lock. -/
def order (trace : Trace ι) : List ι :=
  trace.filterMap fun (i, event) =>
    match event.query with
    | .lock => some i
    | _ => none

@[simp] theorem order_append (first second : Trace ι) :
    order (first ++ second) = order first ++ order second :=
  List.filterMap_append

variable [DecidableEq ι]

/-- The questions of one party. -/
def eventsOf (trace : Trace ι) (i : ι) : List Event :=
  (trace.filter fun entry => entry.1 = i).map (·.2)

/-- The requests of one party that were answered. -/
def requestsOf (trace : Trace ι) (i : ι) : List Wire.Request :=
  Event.requests (trace.eventsOf i)

@[simp] theorem eventsOf_nil (i : ι) : eventsOf [] i = [] := rfl

@[simp] theorem eventsOf_append_self (trace : Trace ι) (i : ι) (event : Event) :
    eventsOf (trace ++ [(i, event)]) i = trace.eventsOf i ++ [event] := by
  simp [eventsOf]

theorem eventsOf_append_of_ne (trace : Trace ι) {i j : ι} (hij : j ≠ i)
    (event : Event) : eventsOf (trace ++ [(i, event)]) j = trace.eventsOf j := by
  simp [eventsOf, hij.symm]

theorem requestsOf_append_self (trace : Trace ι) (i : ι) (event : Event) :
    requestsOf (trace ++ [(i, event)]) i =
      trace.requestsOf i ++ event.query.request?.toList := by
  simp only [requestsOf, eventsOf_append_self, Event.requests,
    List.filterMap_append]
  cases hrequest : event.query.request? <;> simp [hrequest]

end Trace

namespace Meeting

/-- A meeting before anything was asked. -/
def opening (programs : (i : ι) → Program (α i)) (credential : Credential) :
    Meeting α where
  stances i := .ready (programs i)
  credential

variable [DecidableEq ι]

/-- One party takes one step, which answers a question or does not. -/
inductive Step (meeting : Meeting α) : Option (ι × Event) → Meeting α → Prop where
  /-- a question other than a request is answered at once -/
  | ask (i : ι) (query : Query) {next : query.Answer → Program (α i)}
      (holder : Option ι) (answer : query.Answer)
      (hstance : meeting.stances i = .ready (.ask query next))
      (hsend : query.request? = none)
      (hlock : query.Passes i meeting.holder holder)
      (hanswer : query.Allows meeting.credential answer) :
      Step meeting (some (i, ⟨meeting.credential, query, answer⟩))
        { meeting with
          stances := Function.update meeting.stances i (.ready (next answer))
          credential := query.leaves meeting.credential
          holder }
  | send (i : ι) (request : Wire.Request)
      {next : Except TransportFault Wire.Response → Program (α i)}
      (hstance : meeting.stances i = .ready (.ask (.send request) next)) :
      Step meeting none
        { meeting with
          stances := Function.update meeting.stances i (.inFlight request next)
          sent := meeting.sent ++ [request] }
  | receive (i : ι) {request : Wire.Request}
      {next : Except TransportFault Wire.Response → Program (α i)}
      (answer : Except TransportFault Wire.Response)
      (hstance : meeting.stances i = .inFlight request next) :
      Step meeting (some (i, ⟨meeting.credential, .send request, answer⟩))
        { meeting with
          stances := Function.update meeting.stances i (.ready (next answer)) }

/-- Any number of steps, with the questions that they answer. -/
inductive Run (start : Meeting α) : Trace ι → Meeting α → Prop where
  | nil : Run start [] start
  | snoc {trace : Trace ι} {middle final : Meeting α}
      {answered : Option (ι × Event)} (hrun : Run start trace middle)
      (hstep : Step middle answered final) :
      Run start (trace ++ answered.toList) final

theorem Run.append {start middle final : Meeting α} {first second : Trace ι}
    (hfirst : Run start first middle) (hsecond : Run middle second final) :
    Run start (first ++ second) final := by
  induction hsecond with
  | nil => simpa using hfirst
  | snoc hrun hstep ih =>
      rw [← List.append_assoc]
      exact ih.snoc hstep

end Meeting
end BearerClient
