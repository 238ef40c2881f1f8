import BearerClient.Proofs.Program.Budget

/-!
# Courses

A course of a program is all that it asks until it ends, with answers of any kind.
The events of a program that is run alone are a course of it, and so are the events
of one party among others: what is stored may have been changed by anybody between
two of its questions.

What a program ends with is read off its courses.  The rules below take a course
apart as the program was put together.
-/

namespace BearerClient

/-- Requests with their answers. -/
abbrev Transcript := List (Wire.Request × Except TransportFault Wire.Response)

namespace Event

/-- The request of an event with its answer, if it is a request. -/
def answered? : Event → Option (Wire.Request × Except TransportFault Wire.Response)
  | ⟨_, .send request, answer⟩ => some (request, answer)
  | _ => none

/-- The requests among some events, each with its answer. -/
def transcript (events : List Event) : Transcript := events.filterMap answered?

theorem transcript_append (first second : List Event) :
    transcript (first ++ second) = transcript first ++ transcript second :=
  List.filterMap_append

/-- The last request of some events, with its answer. -/
def last? (events : List Event) :
    Option (Wire.Request × Except TransportFault Wire.Response) :=
  (transcript events).getLast?

theorem last?_append {first second : List Event}
    {entry : Wire.Request × Except TransportFault Wire.Response}
    (hlast : last? second = some entry) : last? (first ++ second) = some entry := by
  rw [last?, transcript_append, List.getLast?_append, ← last?, hlast, Option.some_or]

theorem last?_append_of_transcript {first second : List Event}
    (hsecond : transcript second = []) : last? (first ++ second) = last? first := by
  rw [last?, transcript_append, hsecond, List.append_nil, ← last?]

end Event

namespace Program

variable {σ α β : Type}

/-- The events are all that a program asks before it ends with a result, or before it
breaks off. -/
inductive Course : Program α → List Event → Option α → Prop where
  | done (a : α) : Course (.done a) [] (some a)
  | abort : Course .abort [] none
  | ask {query : Query} {next : query.Answer → Program α} (stored : Credential)
      (answer : query.Answer) {events : List Event} {result : Option α}
      (hnext : Course (next answer) events result) :
      Course (.ask query next) (⟨stored, query, answer⟩ :: events) result

variable {program : Program α} {events : List Event} {result : Option α}

theorem course_done {a : α} :
    (done a).Course events result ↔ events = [] ∧ result = some a := by
  constructor
  · intro hcourse
    cases hcourse
    exact ⟨rfl, rfl⟩
  · rintro ⟨rfl, rfl⟩
    exact .done a

theorem course_abort :
    (abort : Program α).Course events result ↔ events = [] ∧ result = none := by
  constructor
  · intro hcourse
    cases hcourse
    exact ⟨rfl, rfl⟩
  · rintro ⟨rfl, rfl⟩
    exact .abort

theorem course_ask {query : Query} {next : query.Answer → Program α} :
    (ask query next).Course events result ↔
      ∃ stored answer rest, events = ⟨stored, query, answer⟩ :: rest ∧
        (next answer).Course rest result := by
  constructor
  · intro hcourse
    cases hcourse with
    | ask stored answer hnext => exact ⟨stored, answer, _, rfl, hnext⟩
  · rintro ⟨stored, answer, rest, rfl, hnext⟩
    exact .ask stored answer hnext

theorem course_bind {f : α → Program β} {result : Option β} :
    (program.bind f).Course events result ↔
      (program.Course events none ∧ result = none) ∨
        ∃ before after a, events = before ++ after ∧
          program.Course before (some a) ∧ (f a).Course after result := by
  induction program generalizing events with
  | done a =>
      simp only [bind, course_done, reduceCtorEq, and_false, false_and, false_or,
        Option.some.injEq]
      constructor
      · exact fun hcourse => ⟨[], events, a, rfl, ⟨rfl, rfl⟩, hcourse⟩
      · rintro ⟨before, after, b, rfl, ⟨rfl, rfl⟩, hcourse⟩
        exact hcourse
  | abort =>
      simp [bind, course_abort]
  | ask query next ih =>
      -- The question is the first event of either course.
      simp only [bind, course_ask, ih]
      constructor
      · rintro ⟨stored, answer, rest, rfl, ⟨hnone, hresult⟩ |
          ⟨before, after, a, rfl, hbefore, hafter⟩⟩
        · exact .inl ⟨⟨stored, answer, rest, rfl, hnone⟩, hresult⟩
        · exact .inr ⟨_ :: before, after, a, rfl,
            ⟨stored, answer, before, rfl, hbefore⟩, hafter⟩
      · rintro (⟨⟨stored, answer, rest, rfl, hnone⟩, hresult⟩ |
          ⟨_, after, a, rfl, ⟨stored, answer, before, rfl, hbefore⟩, hafter⟩)
        · exact ⟨stored, answer, rest, rfl, .inl ⟨hnone, hresult⟩⟩
        · exact ⟨stored, answer, before ++ after, rfl,
            .inr ⟨before, after, a, rfl, hbefore, hafter⟩⟩

/-- A run is a course. -/
theorem course_run (backend : Backend σ) (program : Program α) (world : World σ) :
    program.Course (program.events backend world) (program.run backend world).1 := by
  induction program generalizing world with
  | done a => exact .done a
  | abort => exact .abort
  | ask query next ih => exact .ask _ _ (ih _ _)

/-- A course stays within the budget of its program. -/
theorem Course.requests_le {price : Wire.Request → Nat} {holds : α → Prop}
    {budget : Nat} (hcourse : program.Course events result)
    (hprogram : program.Within price holds budget) :
    ((Event.requests events).map price).sum ≤ budget := by
  induction hcourse generalizing budget with
  | done a => exact Nat.zero_le _
  | abort => exact hprogram.elim
  | @ask query next stored answer events result _ ih =>
      obtain ⟨hcost, hnext⟩ := hprogram
      have hrest := ih (hnext answer)
      have hfirst : (query.request?.toList.map price).sum = query.cost price := by
        cases query <;> simp [Query.request?, Query.cost]
      rw [Event.requests_cons, List.map_append, List.sum_append, hfirst]
      omega

end Program

namespace Call

variable {α β : Type} {call : Call α} {events : List Event} {failure : Failure}

theorem course_ok {a : α} {result : Option (Except Failure α)} :
    (pure a : Call α).run.Course events result ↔
      events = [] ∧ result = some (.ok a) :=
  Program.course_done

theorem course_throw {result : Option (Except Failure α)} :
    (throw failure : Call α).run.Course events result ↔
      events = [] ∧ result = some (.error failure) :=
  Program.course_done

/-- One call after the other fails where the first one does or the second one. -/
theorem course_bind_error {f : α → Call β} :
    (call >>= f).run.Course events (some (.error failure)) ↔
      call.run.Course events (some (.error failure)) ∨
        ∃ before after a, events = before ++ after ∧
          call.run.Course before (some (.ok a)) ∧
          (f a).run.Course after (some (.error failure)) := by
  rw [run_bind, Program.course_bind]
  constructor
  · rintro (⟨-, hresult⟩ | ⟨before, after, failed | a, rfl, hbefore, hafter⟩)
    · cases hresult
    · obtain ⟨rfl, hresult⟩ := course_throw.1 hafter
      cases hresult
      exact .inl (by simpa using hbefore)
    · exact .inr ⟨before, after, a, rfl, hbefore, hafter⟩
  · rintro (hcall | ⟨before, after, a, rfl, hbefore, hafter⟩)
    · exact .inr ⟨events, [], .error failure, by simp, hcall, .done _⟩
    · exact .inr ⟨before, after, .ok a, rfl, hbefore, hafter⟩

theorem course_map_error {f : α → β} :
    (f <$> call).run.Course events (some (.error failure)) ↔
      call.run.Course events (some (.error failure)) := by
  rw [map_eq_pure_bind, course_bind_error]
  constructor
  · rintro (hcall | ⟨_, _, _, _, _, hafter⟩)
    · exact hcall
    · cases (course_ok.1 hafter).2
  · exact .inl

theorem course_locked {result : Except Failure α} :
    (locked call).run.Course events (some result) ↔
      ∃ first inner last, events = ⟨first, .lock, ()⟩ :: inner ++ [⟨last, .unlock, ()⟩] ∧
        call.run.Course inner (some result) := by
  simp only [run_locked, Program.course_ask, Program.course_bind,
    Program.course_done, reduceCtorEq, and_false, false_or, Option.some.injEq]
  constructor
  · rintro ⟨first, _, _, rfl, inner, _, _, rfl, hinner, last, _, _, rfl, rfl, rfl⟩
    exact ⟨first, inner, last, rfl, hinner⟩
  · rintro ⟨first, inner, last, rfl, hinner⟩
    exact ⟨first, (), _, rfl, inner, _, _, rfl, hinner, last, (), [], rfl, rfl, rfl⟩

end Call
end BearerClient
