import BearerClient.Proofs.Meeting.Orderly

/-!
# Serial histories

An orderly meeting tells as much as a serial history: the programs, run alone one
after another in the order in which the lock was taken, each against what came
from outside in its own turn.
-/

namespace BearerClient

open Program

variable {ι : Type} {α : ι → Type} [DecidableEq ι]

namespace Trace

/-- What came from outside in the turns of a meeting, one turn after another. -/
def recording (trace : Trace ι) : List Reading :=
  trace.order.flatMap fun i => Event.readings (trace.eventsOf i)

/-- The world after the programs of some parties, run alone one after another
against what is recorded of a meeting. -/
def serial (programs : (i : ι) → Program (α i)) (start : Credential)
    (trace : Trace ι) (parties : List ι) : World (List Reading) :=
  parties.foldl (fun world i => ((programs i).run Reading.backend world).2)
    ⟨trace.recording, start, []⟩

end Trace

namespace Meeting

variable {programs : (i : ι) → Program (α i)} {start stored : Credential}
  {trace : Trace ι} {meeting final : Meeting α} {i : ι}

/-! ## Turns as a serial history -/

theorem Turns.run {order : List ι}
    (hturns : Turns programs start trace meeting order stored)
    (later : List Reading) :
    order.foldl (fun world i => ((programs i).run Reading.backend world).2)
        ⟨(order.flatMap fun i => Event.readings (trace.eventsOf i)) ++ later,
          start, []⟩ =
      ⟨later, stored, order.flatMap trace.requestsOf⟩ := by
  induction hturns generalizing later with
  | nil => simp
  | @snoc order before after i a _ _ hleads ih =>
      rw [List.foldl_append, List.flatMap_append, List.append_assoc, ih,
        List.flatMap_append]
      simp only [List.flatMap_singleton, List.foldl_cons, List.foldl_nil]
      rw [hleads.run]
      rfl

theorem Turns.serial_eq {past : List ι} (later : List ι)
    (horder : trace.order = past ++ later)
    (hturns : Turns programs start trace meeting past stored) :
    trace.serial programs start past =
      ⟨later.flatMap fun i => Event.readings (trace.eventsOf i), stored,
        past.flatMap trace.requestsOf⟩ := by
  rw [Trace.serial, Trace.recording, horder, List.flatMap_append]
  exact hturns.run _

/-- Each turn of a meeting is one of its serial history. -/
theorem Turns.split {order past later : List ι} (horder : order = past ++ i :: later)
    (hturns : Turns programs start trace meeting order stored) :
    ∃ before after a, Turns programs start trace meeting past before ∧
      meeting.stances i = .ready (.done a) ∧
      (programs i).Leads before (trace.eventsOf i) (.done a) after ∧
      Turns programs start trace meeting (past ++ [i]) after := by
  induction hturns generalizing later with
  | nil => simp at horder
  | @snoc order before after j a hturns hdone hleads ih =>
      rcases List.eq_nil_or_concat later with rfl | ⟨later, k, rfl⟩
      · obtain ⟨rfl, hsame⟩ := List.append_inj' horder rfl
        obtain rfl := List.singleton_inj.1 hsame
        exact ⟨before, after, a, hturns, hdone, hleads, hturns.snoc hdone hleads⟩
      · have hsplit : order ++ [j] = (past ++ i :: later) ++ [k] := by
          simpa using horder
        exact ih (List.append_inj' hsplit rfl).1

/-- The turns that are over, and the order in which they came. -/
theorem Phase.turns (hphase : Phase programs start trace meeting) :
    ∃ past later stored, trace.order = past ++ later ∧
      Turns programs start trace meeting past stored ∧
      ∀ i ∈ later, ∀ a, meeting.stances i ≠ .ready (.done a) := by
  cases hphase with
  | idle _ hturns _ =>
      exact ⟨trace.order, [], _, by simp, hturns, by simp⟩
  | @held past i before rest hheld =>
      refine ⟨past, [i], before, hheld.order, hheld.turns, ?_⟩
      intro j hj a hdone
      obtain rfl := List.mem_singleton.1 hj
      have hrest := hheld.rest_eq
      rw [hdone] at hrest
      cases rest <;> cases hrest

theorem Orderly.mem_order (horderly : Orderly programs start trace meeting)
    {body : Program (α i)} (hprogram : programs i = locked body) {a : α i}
    (hdone : meeting.stances i = .ready (.done a)) : i ∈ trace.order := by
  by_contra hnew
  cases horderly.aside i hnew with
  | waiting hstance _ =>
      rw [hprogram, hdone] at hstance
      cases hstance
  | seen hprogram' _ _ => cases hprogram.symm.trans hprogram'

/-- A party that took the lock and is at its end has had its turn, after those who
took the lock before it. -/
theorem Orderly.turn (horderly : Orderly programs start trace meeting) {a : α i}
    (hmem : i ∈ trace.order) (hdone : meeting.stances i = .ready (.done a)) :
    ∃ past later before after, trace.order = past ++ i :: later ∧
      Turns programs start trace meeting past before ∧
      (programs i).Leads before (trace.eventsOf i) (.done a) after ∧
      Turns programs start trace meeting (past ++ [i]) after := by
  obtain ⟨turns, rest, stored, horder, hturns, hbusy⟩ := horderly.phase.turns
  have hmem : i ∈ turns := by
    rw [horder] at hmem
    rcases List.mem_append.1 hmem with hmem | hmem
    · exact hmem
    · exact absurd hdone (hbusy i hmem a)
  obtain ⟨past, later, rfl⟩ := List.append_of_mem hmem
  obtain ⟨before, after, b, hbefore, hdone', hleads, hafter⟩ := hturns.split rfl
  obtain rfl : b = a := by
    rw [hdone] at hdone'
    cases hdone'
    rfl
  exact ⟨past, later ++ rest, before, after, by simp [horder], hbefore, hleads,
    hafter⟩

/-- Its result is that of its program in the serial history. -/
theorem Orderly.result (horderly : Orderly programs start trace meeting) {a : α i}
    (hmem : i ∈ trace.order) (hdone : meeting.stances i = .ready (.done a)) :
    ∃ past later, trace.order = past ++ i :: later ∧
      (programs i).run Reading.backend (trace.serial programs start past) =
        (some a, trace.serial programs start (past ++ [i])) := by
  obtain ⟨past, later, before, after, horder, hbefore, hleads, hafter⟩ :=
    horderly.turn hmem hdone
  refine ⟨past, later, horder, ?_⟩
  rw [hbefore.serial_eq _ horder,
    hafter.serial_eq later (by simp [horder]), List.flatMap_cons,
    hleads.run]
  simp [Program.run, Trace.requestsOf]

/-- While nobody holds the lock all that is stored and sent is that of the serial
history. -/
theorem Orderly.outcome (horderly : Orderly programs start trace meeting)
    (hfree : meeting.holder = none) :
    (trace.serial programs start trace.order).credential = meeting.credential ∧
      (trace.serial programs start trace.order).sent = meeting.sent := by
  cases horderly.phase with
  | held hheld =>
      rw [hheld.holder] at hfree
      cases hfree
  | idle _ hturns hsent =>
      rw [hturns.serial_eq [] (by simp)]
      exact ⟨rfl, hsent.symm⟩

/-- Once nobody holds the lock, what was seen without it is of the serial history:
it is found after the last turn that had begun by then, or before it. -/
theorem Orderly.look (horderly : Orderly programs start trace meeting) {a : α i}
    {see : Credential → α i} (hprogram : programs i = looking see)
    (hfree : meeting.holder = none)
    (hdone : meeting.stances i = .ready (.done a)) :
    ∃ (before : Trace ι) (event : Event) (after : Trace ι) (past : List ι),
      trace = before ++ (i, event) :: after ∧
      (past = before.order ∨ ∃ j, before.order = past ++ [j]) ∧
      ((programs i).run Reading.backend (trace.serial programs start past)).1 =
        some a := by
  have hnew : i ∉ trace.order := by
    intro hmem
    obtain ⟨body, hbody⟩ := horderly.callers i hmem
    cases hprogram.symm.trans hbody
  cases horderly.aside i hnew with
  | waiting hstance _ =>
      rw [hprogram, hdone] at hstance
      cases hstance
  | @seen see' seen before after event hprogram' hstance htrace hseen =>
      obtain rfl : see' = see := by
        have hsame := hprogram'.symm.trans hprogram
        simp only [looking, Program.ask.injEq, heq_eq_eq, true_and] at hsame
        exact funext fun stored => Program.done.inj (congrFun hsame stored)
      rw [hdone] at hstance
      cases hstance
      have hrecorded : Recorded programs start trace meeting before.order seen := by
        rcases hseen with ⟨hsame, rfl⟩ | hrecorded
        · cases horderly.phase with
          | held hheld =>
              rw [hheld.holder] at hfree
              cases hfree
          | idle _ hturns _ => exact ⟨trace.order, .inl hsame, hturns⟩
        · exact hrecorded
      obtain ⟨past, hpast, hturns⟩ := hrecorded
      obtain ⟨later, hlater⟩ : ∃ later, trace.order = past ++ later := by
        rw [htrace, Trace.order_append]
        rcases hpast with rfl | ⟨j, hj⟩
        · exact ⟨_, rfl⟩
        · exact ⟨_, by rw [hj, List.append_assoc]⟩
      refine ⟨before, event, after, past, htrace, hpast, ?_⟩
      rw [hturns.serial_eq later hlater, hprogram]
      rfl

/-- Only the party that has its turn waits for an answer. -/
theorem Orderly.holder_of_flying (horderly : Orderly programs start trace meeting)
    (hflying : (meeting.stances i).flying ≠ []) : meeting.holder = some i := by
  have hready : ∀ program, meeting.stances i ≠ .ready program := by
    intro program hready
    rw [hready] at hflying
    exact hflying rfl
  by_cases hmem : i ∈ trace.order
  · obtain ⟨past, before, rest, hheld⟩ :=
      horderly.phase.held_of_busy hmem fun _ => hready _
    exact hheld.holder
  · cases horderly.aside i hmem with
    | waiting hstance _ => exact absurd hstance (hready _)
    | seen _ hstance _ => exact absurd hstance (hready _)

/-! ## The end of a turn -/

/-- A party can always have its next question answered, unless it has to wait for
the lock. -/
theorem exists_answered {query : Query} {next : query.Answer → Program (α i)}
    (hrest : (meeting.stances i).rest = .ask query next) {holder : Option ι}
    (hpasses : query.Passes i meeting.holder holder) :
    ∃ answer final,
      Run meeting [(i, ⟨meeting.credential, query, answer⟩)] final ∧
        final.stances =
          Function.update meeting.stances i (.ready (next answer)) ∧
        final.holder = holder := by
  obtain ⟨answer, hanswer⟩ := query.exists_allowed meeting.credential
  cases hstance : meeting.stances i with
  | inFlight request next' =>
      rw [hstance] at hrest
      cases hrest
      exact ⟨answer, _, Run.nil.snoc (.receive i answer hstance), rfl, hpasses.symm⟩
  | ready program =>
      rw [hstance] at hrest
      cases hrest
      cases hrequest : query.request? with
      | none =>
          exact ⟨answer, _, Run.nil.snoc (.ask i query holder answer hstance hrequest hpasses hanswer),
            rfl, rfl⟩
      | some request =>
          cases query <;> cases hrequest
          have hsent := Run.nil.snoc (Step.send i request hstance)
          have hreceived := hsent.snoc
            (.receive i answer (Function.update_self i _ meeting.stances))
          exact ⟨answer, _, hreceived, by simp, hpasses.symm⟩

/-- What is left of a turn can be done without any other party. -/
theorem exists_released {rest : Program (α i)} {writes : Nat}
    (hholder : meeting.holder = some i)
    (hrest : (meeting.stances i).rest = rest.bind releasing)
    (hbody : rest.IsBody writes) :
    ∃ more final, Run meeting more final ∧ final.holder = none ∧
      more.order = [] ∧ ∀ j, j ≠ i → final.stances j = meeting.stances j := by
  induction rest generalizing meeting writes with
  | abort => exact hbody.elim
  | done a =>
      have hpasses : Query.unlock.Passes i meeting.holder none := ⟨hholder, rfl⟩
      obtain ⟨answer, final, hrun, hstances, hfree⟩ := exists_answered hrest hpasses
      refine ⟨_, final, hrun, hfree, rfl, fun j hj => ?_⟩
      rw [hstances, Function.update_of_ne hj]
  | ask query next ih =>
      obtain ⟨hlock, -, hnext⟩ := hbody
      have hpasses : query.Passes i meeting.holder meeting.holder := by
        cases query <;> simp_all [Query.MovesLock, Query.Passes]
      obtain ⟨answer, middle, hfirst, hstances, hheld⟩ :=
        exists_answered hrest hpasses
      obtain ⟨more, final, hsecond, hfree, horder, hothers⟩ :=
        ih answer (hheld.trans hholder)
          (by rw [hstances, Function.update_self]; rfl) (hnext answer)
      refine ⟨_, final, hfirst.append hsecond, hfree, ?_, fun j hj => ?_⟩
      · rw [Trace.order_append, horder, List.append_nil]
        exact Trace.order_of_not_movesLock hlock [] i meeting.credential answer
      · rw [hothers j hj, hstances, Function.update_of_ne hj]

/-- A meeting can be brought to where nobody holds the lock; only the party that
holds it moves. -/
theorem Orderly.completes (horderly : Orderly programs start trace meeting) :
    ∃ more final, Run meeting more final ∧ final.holder = none ∧
      more.order = [] ∧
      ∀ i, meeting.holder ≠ some i → final.stances i = meeting.stances i := by
  cases horderly.phase with
  | idle hfree _ _ =>
      exact ⟨[], meeting, .nil, hfree, rfl, fun _ _ => rfl⟩
  | @held past i before rest hheld =>
      have hbody : rest.IsBody 1 := by
        rcases hheld.body with hbody | ⟨hbody, -⟩
        · exact hbody.mono (by omega)
        · exact hbody
      obtain ⟨more, final, hrun, hfree, horder, hothers⟩ :=
        exists_released hheld.holder hheld.rest_eq hbody
      refine ⟨more, final, hrun, hfree, horder, fun j hj => hothers j ?_⟩
      rintro rfl
      exact hj hheld.holder

end Meeting
end BearerClient
