import BearerClient.Proofs.Program.Contract
import BearerClient.Proofs.Program.CutOff

/-!
# What a program may ask

A program may be such that it asks only questions of some kind, whatever it is answered.  That is
a matter of the parts which the program is put together from, and it can be told from the courses
of the program.

One kind are the questions that store nothing but good credentials.  While a program keeps to it
what is stored stays good, also if others change it between two questions, as long as they keep to
it as well.
-/

namespace BearerClient

namespace Program

variable {α β : Type} {may : Query → Prop} {program : Program α}

/-- Whatever it is answered, the program asks no other questions than it may. -/
def AsksOnly (may : Query → Prop) : Program α → Prop
  | done _ => True
  | abort => True
  | ask query next => may query ∧ ∀ answer, (next answer).AsksOnly may

theorem AsksOnly.bind {f : α → Program β} (hprogram : program.AsksOnly may)
    (hf : ∀ a, (f a).AsksOnly may) : (program.bind f).AsksOnly may := by
  induction program with
  | done a => exact hf a
  | abort => trivial
  | ask query next ih =>
      obtain ⟨hquery, hnext⟩ := hprogram
      exact ⟨hquery, fun answer => ih answer (hnext answer)⟩

theorem AsksOnly.cutOff (questions : Nat) (hprogram : program.AsksOnly may) :
    (program.cutOff questions).AsksOnly may := by
  induction program generalizing questions with
  | done a => cases questions <;> trivial
  | abort => cases questions <;> trivial
  | ask query next ih =>
      cases questions with
      | zero => trivial
      | succ questions =>
          obtain ⟨hquery, hnext⟩ := hprogram
          exact ⟨hquery, fun answer => ih answer questions (hnext answer)⟩

theorem AsksOnly.of_mem_course (hprogram : program.AsksOnly may) {events : List Event}
    {result : Option α} (hcourse : program.Course events result) {event : Event}
    (hevent : event ∈ events) : may event.query := by
  induction hcourse with
  | done a => cases hevent
  | abort => cases hevent
  | ask stored answer _ ih =>
      obtain ⟨hquery, hnext⟩ := hprogram
      rcases List.mem_cons.1 hevent with rfl | hlater
      · exact hquery
      · exact ih (hnext answer) hlater

/-- Each question is part of some course, since every program comes to an end. -/
theorem asksOnly_of_course
    (hcourses : ∀ events result, program.Course events result → ∀ event ∈ events,
      may event.query) :
    program.AsksOnly may := by
  induction program with
  | done a => trivial
  | abort => trivial
  | ask query next ih =>
      refine ⟨?_, fun answer => ih answer fun events result hrest event hevent => ?_⟩
      · obtain ⟨answer⟩ := query.exists_answer
        obtain ⟨events, result, hrest⟩ := exists_course (next answer)
        exact hcourses _ result (.ask .blank answer hrest) _ List.mem_cons_self
      · exact hcourses _ result (.ask .blank answer hrest) event (List.mem_cons_of_mem _ hevent)

end Program

namespace Call

variable {α β : Type} {may : Query → Prop} {call : Call α}

theorem asksOnly_bind {f : α → Call β} (hcall : call.run.AsksOnly may)
    (hf : ∀ a, (f a).run.AsksOnly may) : (call >>= f).run.AsksOnly may := by
  refine Program.AsksOnly.bind hcall fun result => ?_
  cases result with
  | error failure => trivial
  | ok a => exact hf a

theorem asksOnly_map {f : α → β} (hcall : call.run.AsksOnly may) :
    (f <$> call).run.AsksOnly may := by
  rw [map_eq_pure_bind]
  exact asksOnly_bind hcall fun _ => trivial

theorem asksOnly_locked (hlock : may .lock) (hunlock : may .unlock)
    (hcall : call.run.AsksOnly may) : (locked call).run.AsksOnly may := by
  rw [run_locked]
  have hreleased : (call.run.bind fun result => .ask .unlock fun _ => .done result).AsksOnly
      may := Program.AsksOnly.bind hcall fun _ => ⟨hunlock, fun _ => trivial⟩
  exact ⟨hlock, fun _ => hreleased⟩

end Call

/-! ## What is stored -/

/-- The question stores nothing but a good credential. -/
def Query.WritesOnly (good : Credential → Prop) : Query → Prop
  | .replace written => good written
  | _ => True

variable {good : Credential → Prop} {stored : Credential}

theorem Query.WritesOnly.leaves {query : Query} (hquery : query.WritesOnly good)
    (hstored : good stored) : good (query.leaves stored) := by
  cases query with
  | replace written => exact hquery
  | _ => exact hstored

/-- What is stored stays good while the program runs alone. -/
theorem Program.AsksOnly.obeys {α : Type} {program : Program α}
    (hprogram : program.AsksOnly (Query.WritesOnly good)) {log : List Event}
    (hstored : good stored) :
    program.Obeys (fun _ stored _ => good stored) (fun _ stored _ => good stored)
      log stored := by
  induction program generalizing log stored with
  | done a => exact hstored
  | abort => exact hstored
  | ask query next ih =>
      obtain ⟨hquery, hnext⟩ := hprogram
      exact ⟨hstored, fun answer _ => ih answer (hnext answer) (hquery.leaves hstored)⟩

end BearerClient
