import BearerClient.Proofs.Program.Course

/-!
# Programs that are given up

A program that is given up after a number of questions has asked these and no other
questions, and has no result.  With questions to spare it is the program itself.  All that
holds of the first events of every course of a program so holds where it is given up.
-/

namespace BearerClient

theorem Query.exists_answer (query : Query) : Nonempty query.Answer := by
  cases query with
  | now => exact ⟨.epoch⟩
  | credential => exact ⟨.blank⟩
  | send request => exact ⟨.error ⟨.other, ""⟩⟩
  | _ => exact ⟨()⟩

namespace Program

variable {α σ : Type}

/-! ## Runs -/

section Runs

variable (backend : Backend σ) (program : Program α) (questions : Nat) (world : World σ)

theorem events_cutOff :
    (program.cutOff questions).events backend world =
      (program.events backend world).take questions := by
  induction program generalizing questions world with
  | done a => cases questions <;> rfl
  | abort => cases questions <;> rfl
  | ask query next ih =>
      cases questions with
      | zero => rfl
      | succ questions => exact congrArg (List.cons _) (ih _ questions _)

variable {program questions world}

/-- A program that is given up has no result. -/
theorem run_cutOff_of_le (hcut : questions ≤ (program.events backend world).length) :
    ((program.cutOff questions).run backend world).1 = some none := by
  induction program generalizing questions world with
  | done a =>
      rw [Nat.le_zero.1 hcut]
      rfl
  | abort =>
      rw [Nat.le_zero.1 hcut]
      rfl
  | ask query next ih =>
      cases questions with
      | zero => rfl
      | succ questions => exact ih _ (Nat.le_of_succ_le_succ hcut)

/-- A program that comes to its end first makes no use of the limit. -/
theorem run_cutOff_of_lt (hwhole : (program.events backend world).length < questions) :
    (program.cutOff questions).run backend world =
      ((program.run backend world).1.map some, (program.run backend world).2) := by
  induction program generalizing questions world with
  | done a =>
      obtain ⟨questions, rfl⟩ := Nat.exists_eq_add_one.2 hwhole
      rfl
  | abort =>
      obtain ⟨questions, rfl⟩ := Nat.exists_eq_add_one.2 hwhole
      rfl
  | ask query next ih =>
      cases questions with
      | zero => exact absurd hwhole (Nat.not_lt_zero _)
      | succ questions => exact ih _ (Nat.lt_of_succ_lt_succ hwhole)

end Runs

/-! ## Courses -/

theorem exists_course (program : Program α) :
    ∃ events result, program.Course events result := by
  induction program with
  | done a => exact ⟨[], some a, .done a⟩
  | abort => exact ⟨[], none, .abort⟩
  | ask query next ih =>
      obtain ⟨answer⟩ := query.exists_answer
      obtain ⟨events, result, hcourse⟩ := ih answer
      exact ⟨_, result, .ask .blank answer hcourse⟩

/-- What a program asks before it is given up is the beginning of what it might have asked
in all, and if it is not given up it is all of that. -/
theorem Course.whole {program : Program α} {questions : Nat} {events : List Event}
    {result : Option (Option α)} (hcourse : (program.cutOff questions).Course events result) :
    ∃ rest ended, program.Course (events ++ rest) ended ∧
      (result = some none ∧ events.length = questions ∨
        result = ended.map some ∧ rest = [] ∧ events.length < questions) := by
  induction program generalizing questions events with
  | done a =>
      cases questions with
      | zero =>
          obtain ⟨rfl, rfl⟩ := course_done.1 hcourse
          exact ⟨[], some a, .done a, .inl ⟨rfl, rfl⟩⟩
      | succ questions =>
          obtain ⟨rfl, rfl⟩ := course_done.1 hcourse
          exact ⟨[], some a, .done a, .inr ⟨rfl, rfl, Nat.succ_pos _⟩⟩
  | abort =>
      cases questions with
      | zero =>
          obtain ⟨rfl, rfl⟩ := course_done.1 hcourse
          exact ⟨[], none, .abort, .inl ⟨rfl, rfl⟩⟩
      | succ questions =>
          obtain ⟨rfl, rfl⟩ := course_abort.1 hcourse
          exact ⟨[], none, .abort, .inr ⟨rfl, rfl, Nat.succ_pos _⟩⟩
  | ask query next ih =>
      cases questions with
      | zero =>
          obtain ⟨rfl, rfl⟩ := course_done.1 hcourse
          -- What comes after the cut was never answered: any answers will do.
          obtain ⟨rest, ended, hwhole⟩ := exists_course (Program.ask query next)
          exact ⟨rest, ended, hwhole, .inl ⟨rfl, rfl⟩⟩
      | succ questions =>
          obtain ⟨stored, answer, later, rfl, hlater⟩ := course_ask.1 hcourse
          obtain ⟨rest, ended, hwhole, hresult⟩ := ih answer hlater
          refine ⟨rest, ended, .ask stored answer hwhole, ?_⟩
          simpa using hresult

/-- A program that was not given up has gone its own course. -/
theorem Course.of_cutOff {program : Program α} {questions : Nat} {events : List Event} {a : α}
    (hcourse : (program.cutOff questions).Course events (some (some a))) :
    program.Course events (some a) := by
  obtain ⟨rest, ended, hwhole, ⟨hcut, -⟩ | ⟨hended, rfl, -⟩⟩ := hcourse.whole
  · cases hcut
  · obtain ⟨_, rfl, hsome⟩ := Option.map_eq_some_iff.1 hended.symm
    cases hsome
    rwa [List.append_nil] at hwhole

end Program
end BearerClient
