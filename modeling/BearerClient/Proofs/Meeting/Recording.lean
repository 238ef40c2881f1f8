import BearerClient.Proofs.Meeting.Interleaving

/-!
# Recordings

What the surroundings answered in the course of a program can be played back:
the program, run alone against the recording, asks the same, is answered the
same and ends the same.
-/

namespace BearerClient

/-- What comes from outside: a look at the clock, or the answer to a request. -/
inductive Reading where
  | now (now : Instant)
  | answer (answer : Except TransportFault Wire.Response)

/-- What the answer to a question brings from outside. -/
def Event.reading? : Event → Option Reading
  | ⟨_, .now, now⟩ => some (.now now)
  | ⟨_, .send _, answer⟩ => some (.answer answer)
  | _ => none

def Event.readings (events : List Event) : List Reading :=
  events.filterMap Event.reading?

/-- Every look at the clock has found an instant of a kind. -/
def Event.Clocked (clock : Instant → Prop) (events : List Event) : Prop :=
  ∀ now, Reading.now now ∈ Event.readings events → clock now

theorem Event.Clocked.mono {clock : Instant → Prop} {events events' : List Event}
    (hclocked : Event.Clocked clock events) (hsubset : events' ⊆ events) :
    Event.Clocked clock events' := by
  intro now hmem
  obtain ⟨event, hevent, hreading⟩ := List.mem_filterMap.1 hmem
  exact hclocked now (List.mem_filterMap.2 ⟨event, hsubset hevent, hreading⟩)

theorem Event.Clocked.now {clock : Instant → Prop} {events : List Event}
    (hclocked : Event.Clocked clock events) (stored : Credential) {now : Instant}
    (hmem : ⟨stored, .now, now⟩ ∈ events) : clock now :=
  hclocked now (List.mem_filterMap.2 ⟨_, hmem, rfl⟩)

namespace Reading

/-- What is answered once a recording is at its end. -/
def silence : TransportFault := ⟨.other, ""⟩

/-- Plays a recording back, and lets no time pass. -/
def backend : Backend (List Reading) where
  now := fun
    | .now time :: rest => (time, rest)
    | rest => (.epoch, rest)
  send := fun
    | .answer received :: rest, _ => (received, rest)
    | rest, _ => (.error silence, rest)
  wait rest _ := rest

end Reading

namespace Program

variable {α : Type}

/-- The questions lead from a program to what is left of it, and from one stored
credential to another, if nobody else writes in between. -/
inductive Leads (program : Program α) (start : Credential) :
    List Event → Program α → Credential → Prop where
  | nil : Leads program start [] program start
  | snoc {log : List Event} {stored : Credential} {query : Query}
      {next : query.Answer → Program α}
      (hleads : Leads program start log (ask query next) stored)
      (answer : query.Answer) (hanswer : query.Allows stored answer) :
      Leads program start (log ++ [⟨stored, query, answer⟩]) (next answer)
        (query.leaves stored)

variable {program rest : Program α} {start stored : Credential} {log : List Event}

theorem Leads.bind {β : Type} (hleads : program.Leads start log rest stored)
    (f : α → Program β) : (program.bind f).Leads start log (rest.bind f) stored := by
  induction hleads with
  | nil => exact .nil
  | snoc _ answer hanswer ih => exact ih.snoc answer hanswer

theorem Leads.append {later : List Event} {middle : Program α} {between : Credential}
    (hfirst : program.Leads start log middle between)
    (hsecond : middle.Leads between later rest stored) :
    program.Leads start (log ++ later) rest stored := by
  induction hsecond with
  | nil => simpa using hfirst
  | snoc _ answer hanswer ih =>
      rw [← List.append_assoc]
      exact ih.snoc answer hanswer

theorem Leads.cons {query : Query} {next : query.Answer → Program α} {later : List Event}
    {answer : query.Answer} (hanswer : query.Allows start answer)
    (hnext : (next answer).Leads (query.leaves start) later rest stored) :
    (ask query next).Leads start (⟨start, query, answer⟩ :: later) rest stored :=
  (Leads.nil.snoc answer hanswer).append hnext

theorem Leads.obeys {asks : Asks} {ends : Ends α}
    (hleads : program.Leads start log rest stored)
    (hobeys : program.Obeys asks ends [] start) :
    rest.Obeys asks ends log stored := by
  induction hleads with
  | nil => exact hobeys
  | snoc _ answer hanswer ih => exact ih.2 answer hanswer

/-- Every question on the way is one that may be asked after those before it. -/
theorem Leads.asked {asks : Asks} {ends : Ends α}
    (hleads : program.Leads start log rest stored)
    (hobeys : program.Obeys asks ends [] start) {event : Event} (hmem : event ∈ log) :
    ∃ before, before <+: log ∧ asks before event.stored event.query := by
  induction hleads with
  | nil => cases hmem
  | snoc hleads answer _ ih =>
      rcases List.mem_append.1 hmem with hmem | hmem
      · obtain ⟨before, hprefix, hasks⟩ := ih hmem
        exact ⟨before, hprefix.trans (List.prefix_append ..), hasks⟩
      · cases List.mem_singleton.1 hmem
        exact ⟨_, List.prefix_append .., (hleads.obeys hobeys).1⟩

/-- Run against its recording a program comes to what is left of it. -/
theorem Leads.run (hleads : program.Leads start log rest stored)
    (later : List Reading) (sent : List Wire.Request) :
    program.run Reading.backend ⟨Event.readings log ++ later, start, sent⟩ =
      rest.run Reading.backend ⟨later, stored, sent ++ Event.requests log⟩ := by
  induction hleads generalizing later with
  | nil => simp [Event.readings]
  | @snoc log stored query next _ answer hanswer ih =>
      have hlog : Event.readings (log ++ [⟨stored, query, answer⟩]) ++ later =
          Event.readings log ++
            ((Event.reading? ⟨stored, query, answer⟩).toList ++ later) := by
        cases hreading : Event.reading? ⟨stored, query, answer⟩ <;>
          simp [Event.readings, hreading]
      have hsent : sent ++ Event.requests (log ++ [⟨stored, query, answer⟩]) =
          sent ++ Event.requests log ++ query.request?.toList := by
        cases query <;> simp [Event.requests, Query.request?]
      rw [hlog, hsent, ih]
      cases query with
      | credential =>
          cases hanswer
          simp [Program.run, World.answer, Query.request?, Event.reading?, Query.leaves]
      | _ =>
          simp [Program.run, World.answer, Query.request?, Event.reading?,
            Query.leaves, Reading.backend]

end Program
end BearerClient
