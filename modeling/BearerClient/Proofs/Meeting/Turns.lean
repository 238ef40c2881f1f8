import Mathlib.Data.List.Basic
import BearerClient.Proofs.Meeting.Recording

/-!
# Turns

A party that comes for the lock has its turn between taking it and giving it
back.  While it has it nobody else writes or sends, so what it does it does as if
it were alone, from the credential that the turn before it has left.  A party
that only looks at the credential does so at any moment: before or after the one
write of the turn that is under way, and so it sees what that turn has found or
what it leaves.
-/

namespace BearerClient

namespace Query

/-- How often a question replaces the stored credential. -/
def writes : Query → Nat
  | .replace _ => 1
  | _ => 0

/-- The question takes the lock or gives it back. -/
def MovesLock : Query → Prop
  | .lock | .unlock => True
  | _ => False

theorem leaves_of_writes {query : Query} (stored : Credential)
    (hwrites : query.writes = 0) : query.leaves stored = stored := by
  cases query <;> simp_all [writes, leaves]

theorem passes_of_not_movesLock {ι : Type} {query : Query} {i : ι}
    {before after : Option ι} (hquery : ¬query.MovesLock)
    (hpasses : query.Passes i before after) : after = before := by
  cases query <;> simp_all [MovesLock, Passes]

/-- Every question can be answered. -/
theorem exists_allowed (stored : Credential) (query : Query) :
    ∃ answer, query.Allows stored answer := by
  cases query with
  | now => exact ⟨.epoch, trivial⟩
  | credential => exact ⟨stored, rfl⟩
  | send request => exact ⟨.error Reading.silence, trivial⟩
  | _ => exact ⟨(), trivial⟩

end Query

theorem Trace.order_of_not_movesLock {ι : Type} {query : Query}
    (hquery : ¬query.MovesLock) (trace : Trace ι) (i : ι) (stored : Credential)
    (answer : query.Answer) :
    order (trace ++ [(i, ⟨stored, query, answer⟩)]) = trace.order := by
  cases query <;> simp_all [order, Query.MovesLock]

namespace Program

variable {α β : Type}

/-- The program leaves the lock alone, replaces the stored credential a number of
times at most, and comes to a result. -/
def IsBody : Program α → Nat → Prop
  | done _, _ => True
  | abort, _ => False
  | ask query next, writes =>
    ¬query.MovesLock ∧ query.writes ≤ writes ∧
      ∀ answer, (next answer).IsBody (writes - query.writes)

theorem IsBody.mono {program : Program α} {writes writes' : Nat}
    (hbody : program.IsBody writes) (hwrites : writes ≤ writes') :
    program.IsBody writes' := by
  induction program generalizing writes writes' with
  | done a => trivial
  | abort => exact hbody
  | ask query next ih =>
      obtain ⟨hlock, hquery, hnext⟩ := hbody
      exact ⟨hlock, by omega, fun answer => ih answer (hnext answer) (by omega)⟩

theorem IsBody.bind {program : Program α} {f : α → Program β}
    {writes writes' : Nat} (hbody : program.IsBody writes)
    (hf : ∀ a, (f a).IsBody writes') :
    (program.bind f).IsBody (writes + writes') := by
  induction program generalizing writes with
  | done a => exact (hf a).mono (by omega)
  | abort => exact hbody.elim
  | ask query next ih =>
      obtain ⟨hlock, hquery, hnext⟩ := hbody
      refine ⟨hlock, by omega, fun answer => ?_⟩
      exact (ih answer (hnext answer)).mono (by omega)

/-- Gives the lock back and ends. -/
def releasing (a : α) : Program α := ask .unlock fun _ => done a

/-- Looks at the stored credential, and asks nothing else. -/
def looking (see : Credential → α) : Program α :=
  ask .credential fun stored => done (see stored)

/-- What a party comes to a meeting for: a turn with the lock, or a look without
it. -/
inductive Attends : Program α → Prop where
  | turn {body : Program α} (hbody : body.IsBody 1) : Attends (locked body)
  | look (see : Credential → α) : Attends (looking see)

theorem locked_eq (body : Program α) :
    locked body = ask .lock fun _ => body.bind releasing := rfl

end Program

namespace Meeting

open Program

variable {ι : Type} {α : ι → Type} [DecidableEq ι]

/-! ## Steps, by what they do -/

section Steps

variable {meeting final : Meeting α} {answered : Option (ι × Event)}

/-- A party has a question answered, and goes on with the answer. -/
structure Answers (meeting : Meeting α) (i : ι) (query : Query)
    (next : query.Answer → Program (α i)) (answer : query.Answer)
    (final : Meeting α) : Prop where
  rest : (meeting.stances i).rest = .ask query next
  flying : (meeting.stances i).flying = query.request?.toList
  allows : query.Allows meeting.credential answer
  passes : query.Passes i meeting.holder final.holder
  stances : final.stances = Function.update meeting.stances i (.ready (next answer))
  credential : final.credential = query.leaves meeting.credential
  sent : final.sent = meeting.sent

/-- A party sends a request, which is not answered yet. -/
structure Sends (meeting : Meeting α) (i : ι) (request : Wire.Request)
    (final : Meeting α) : Prop where
  rest : ∃ next, (meeting.stances i).rest = .ask (.send request) next
  keeps : (final.stances i).rest = (meeting.stances i).rest
  flying : (meeting.stances i).flying = []
  flies : (final.stances i).flying = [request]
  stances : ∀ j, j ≠ i → final.stances j = meeting.stances j
  holder : final.holder = meeting.holder
  credential : final.credential = meeting.credential
  sent : final.sent = meeting.sent ++ [request]

theorem Step.cases (hstep : Step meeting answered final) :
    (∃ i query next answer,
      answered = some (i, ⟨meeting.credential, query, answer⟩) ∧
        Answers meeting i query next answer final) ∨
      ∃ i request, answered = none ∧ Sends meeting i request final := by
  cases hstep with
  | @ask i query next holder answer hstance hsend hlock hanswer =>
      refine .inl ⟨i, query, next, answer, rfl, ?_⟩
      exact {
        rest := by rw [hstance]; rfl
        flying := by rw [hstance, hsend]; rfl
        allows := hanswer
        passes := hlock
        stances := rfl
        credential := rfl
        sent := rfl }
  | @receive i request next answer hstance =>
      refine .inl ⟨i, .send request, next, answer, rfl, ?_⟩
      exact {
        rest := by rw [hstance]; rfl
        flying := by rw [hstance]; rfl
        allows := trivial
        passes := rfl
        stances := rfl
        credential := rfl
        sent := rfl }
  | @send i request next hstance =>
      refine .inr ⟨i, request, rfl, ?_⟩
      exact {
        rest := ⟨next, by rw [hstance]; rfl⟩
        keeps := by simp [hstance, Stance.rest]
        flying := by rw [hstance]; rfl
        flies := by simp [Stance.flying]
        stances := fun j hj => Function.update_of_ne hj ..
        holder := rfl
        credential := rfl
        sent := rfl }

/-- One party moves, which was not at its end, and the others stay where they
are. -/
structure Moves (i : ι) (trace trace' : Trace ι) (meeting final : Meeting α) :
    Prop where
  busy : ∀ a, meeting.stances i ≠ .ready (.done a)
  stances : ∀ j, j ≠ i → final.stances j = meeting.stances j
  events : ∀ j, j ≠ i → trace'.eventsOf j = trace.eventsOf j
  trace : ∃ later, trace' = trace ++ later

theorem Answers.moves {i : ι} {query : Query} {next : query.Answer → Program (α i)}
    {answer : query.Answer} (hanswers : Answers meeting i query next answer final)
    (trace : Trace ι) :
    Moves i trace (trace ++ [(i, ⟨meeting.credential, query, answer⟩)])
      meeting final where
  busy a hdone := by
    have hrest := hanswers.rest
    rw [hdone] at hrest
    cases hrest
  stances j hj := by rw [hanswers.stances, Function.update_of_ne hj]
  events j hj := Trace.eventsOf_append_of_ne trace hj _
  trace := ⟨_, rfl⟩

theorem Sends.moves {i : ι} {request : Wire.Request}
    (hsends : Sends meeting i request final) (trace : Trace ι) :
    Moves i trace trace meeting final where
  busy a hdone := by
    obtain ⟨next, hrest⟩ := hsends.rest
    rw [hdone] at hrest
    cases hrest
  stances := hsends.stances
  events _ _ := rfl
  trace := ⟨[], by simp⟩

theorem Moves.requestsOf {i : ι} {trace trace' : Trace ι}
    (hmoves : Moves i trace trace' meeting final) {past : List ι}
    (hpast : i ∉ past) :
    past.flatMap trace'.requestsOf = past.flatMap trace.requestsOf := by
  apply List.flatMap_congr
  intro j hj
  have hne : j ≠ i := fun h => hpast (h ▸ hj)
  rw [Trace.requestsOf, hmoves.events j hne, Trace.requestsOf]

end Steps

/-! ## One turn after another -/

variable (programs : (i : ι) → Program (α i)) (start : Credential)

/-- The parties have had their turns one after another, each from the credential
that the one before it has left. -/
inductive Turns (trace : Trace ι) (meeting : Meeting α) :
    List ι → Credential → Prop where
  | nil : Turns trace meeting [] start
  | snoc {order : List ι} {before after : Credential} {i : ι} {a : α i}
      (hturns : Turns trace meeting order before)
      (hdone : meeting.stances i = .ready (.done a))
      (hleads : (programs i).Leads before (trace.eventsOf i) (.done a) after) :
      Turns trace meeting (order ++ [i]) after

/-- The credential was stored after some turns, or before the last one of them. -/
def Recorded (trace : Trace ι) (meeting : Meeting α) (turns : List ι)
    (stored : Credential) : Prop :=
  ∃ past, (past = turns ∨ ∃ j, turns = past ++ [j]) ∧
    Turns programs start trace meeting past stored

/-- A party has its turn, after some others.  It has come to what is left of its
program before it gives the lock back, and writes once at most. -/
structure Held (trace : Trace ι) (meeting : Meeting α) (past : List ι) (i : ι)
    (before : Credential) (rest : Program (α i)) : Prop where
  holder : meeting.holder = some i
  order : trace.order = past ++ [i]
  turns : Turns programs start trace meeting past before
  rest_eq : (meeting.stances i).rest = rest.bind releasing
  leads : (programs i).Leads before (trace.eventsOf i) (rest.bind releasing)
    meeting.credential
  body : rest.IsBody 0 ∨ rest.IsBody 1 ∧ meeting.credential = before
  sent : meeting.sent = past.flatMap trace.requestsOf ++
    trace.requestsOf i ++ (meeting.stances i).flying

/-- What has happened under the lock: some turns, one after another, and if a
party holds the lock a part of one more. -/
inductive Phase (trace : Trace ι) (meeting : Meeting α) : Prop where
  | idle (hholder : meeting.holder = none)
      (hturns : Turns programs start trace meeting trace.order meeting.credential)
      (hsent : meeting.sent = trace.order.flatMap trace.requestsOf)
  | held {past : List ι} {i : ι} {before : Credential} {rest : Program (α i)}
      (hheld : Held programs start trace meeting past i before rest)

/-- A party that has not taken the lock has done nothing yet, or has looked.  What
it saw then is stored after the last turn that had begun, or before it; while that
turn is under way, this is known of what is stored at the moment. -/
inductive Aside (trace : Trace ι) (meeting : Meeting α) (i : ι) : Prop where
  | waiting (hstance : meeting.stances i = .ready (programs i))
      (hevents : trace.eventsOf i = [])
  | seen {see : Credential → α i} {stored : Credential} {before after : Trace ι}
      {event : Event} (hprogram : programs i = looking see)
      (hstance : meeting.stances i = .ready (.done (see stored)))
      (htrace : trace = before ++ (i, event) :: after)
      (hseen : (trace.order = before.order ∧ stored = meeting.credential) ∨
        Recorded programs start trace meeting before.order stored)

/-- What holds of a meeting whenever it is looked at. -/
structure Orderly (trace : Trace ι) (meeting : Meeting α) : Prop where
  nodup : trace.order.Nodup
  callers : ∀ i ∈ trace.order, ∃ body, programs i = locked body
  phase : Phase programs start trace meeting
  aside : ∀ i, i ∉ trace.order → Aside programs start trace meeting i

variable {programs start} {trace trace' : Trace ι} {meeting final : Meeting α}
  {i : ι}

/-! ## What a move leaves as it was -/

section Moves

variable (hmoves : Moves i trace trace' meeting final)
include hmoves

theorem Turns.moves {order : List ι} {stored : Credential}
    (hturns : Turns programs start trace meeting order stored) :
    Turns programs start trace' final order stored := by
  induction hturns with
  | nil => exact .nil
  | @snoc order before after j a _ hdone hleads ih =>
      have hne : j ≠ i := by
        rintro rfl
        exact hmoves.busy a hdone
      refine ih.snoc ((hmoves.stances j hne).trans hdone) ?_
      rw [hmoves.events j hne]
      exact hleads

theorem Recorded.moves {turns : List ι} {stored : Credential}
    (hrecorded : Recorded programs start trace meeting turns stored) :
    Recorded programs start trace' final turns stored := by
  obtain ⟨past, hpast, hturns⟩ := hrecorded
  exact ⟨past, hpast, hturns.moves hmoves⟩

/-- What was seen stays true if nothing is written, or if it was what a turn had
left. -/
theorem Aside.moves {j : ι} (hne : j ≠ i)
    (haside : Aside programs start trace meeting j)
    (hkept : (trace'.order = trace.order ∧
        final.credential = meeting.credential) ∨
      Recorded programs start trace meeting trace.order meeting.credential) :
    Aside programs start trace' final j := by
  cases haside with
  | waiting hstance hevents =>
      exact .waiting ((hmoves.stances j hne).trans hstance)
        ((hmoves.events j hne).trans hevents)
  | @seen see stored before after event hprogram hstance htrace hseen =>
      obtain ⟨later, hlater⟩ := hmoves.trace
      have htrace' : trace' = before ++ (j, event) :: (after ++ later) := by
        rw [hlater, htrace]
        simp
      refine .seen hprogram ((hmoves.stances j hne).trans hstance) htrace' ?_
      rcases hseen with ⟨hsame, rfl⟩ | hrecorded
      · rcases hkept with ⟨horder, hcredential⟩ | hrecorded
        · exact .inl ⟨horder.trans hsame, hcredential.symm⟩
        · rw [hsame] at hrecorded
          exact .inr (hrecorded.moves hmoves)
      · exact .inr (hrecorded.moves hmoves)

end Moves
end Meeting
end BearerClient
