import Mathlib.Data.List.Forall2
import BearerClient.Proofs.Program.Contract
import BearerClient.Proofs.Program.Course

/-!
# Programs that ask alike

Two programs ask alike if they ask the same, except that a request of one may stand where
another one, which is like it, stands in the other.  As long as the clock shows both the
same and their requests are answered alike, nobody can tell them apart by anything but
those requests: they end alike, and the same is stored after each of their questions.
-/

namespace BearerClient

variable {α β σ σ' : Type} {like : Wire.Request → Wire.Request → Prop}

/-! ## Answers in order -/

/-- Two lists have the same entry wherever both have one. -/
def Agree (first second : List α) : Prop :=
  ∀ (i : Nat) (a b : α), first[i]? = some a → second[i]? = some b → a = b

theorem agree_cons {a b : α} {first second : List α} :
    Agree (a :: first) (b :: second) ↔ a = b ∧ Agree first second := by
  constructor
  · intro hagree
    exact ⟨hagree 0 a b rfl rfl, fun i => hagree (i + 1)⟩
  · rintro ⟨rfl, hagree⟩ i
    cases i with
    | zero =>
        intro c d hc hd
        exact Option.some.inj (hc.symm.trans hd)
    | succ i => exact hagree i

theorem agree_refl (list : List α) : Agree list list :=
  fun _ _ _ ha hb => Option.some.inj (ha.symm.trans hb)

namespace Event

/-- The reading of an event, if it is a look at the clock. -/
def instant? : Event → Option Instant
  | ⟨_, .now, answer⟩ => some answer
  | _ => none

def instants (events : List Event) : List Instant := events.filterMap instant?

def responses (events : List Event) : List (Except TransportFault Wire.Response) :=
  (transcript events).map Prod.snd

/-- The clock showed the same, and the requests were answered alike, for as long as both
went on. -/
structure AnsweredAlike (first second : List Event) : Prop where
  clock : Agree (instants first) (instants second)
  transport : Agree (responses first) (responses second)

/-- The same was stored all the time, and the requests are alike. -/
structure Alike (like : Wire.Request → Wire.Request → Prop) (first second : List Event) :
    Prop where
  stored : first.map Event.stored = second.map Event.stored
  requests : List.Forall₂ like (requests first) (requests second)

section Cons

variable {stored stored' : Credential} {first second : List Event}

theorem AnsweredAlike.of_send {request request' : Wire.Request}
    {answer answer' : Except TransportFault Wire.Response}
    (halike : AnsweredAlike (⟨stored, .send request, answer⟩ :: first)
      (⟨stored', .send request', answer'⟩ :: second)) :
    answer = answer' ∧ AnsweredAlike first second := by
  obtain ⟨hclock, htransport⟩ := halike
  obtain ⟨hanswer, hrest⟩ := agree_cons.1 htransport
  exact ⟨hanswer, hclock, hrest⟩

/-- What is answered alike is answered the same, if the same is stored. -/
theorem AnsweredAlike.of_cons {query : Query} {answer answer' : query.Answer}
    (halike : AnsweredAlike (⟨stored, query, answer⟩ :: first)
      (⟨stored, query, answer'⟩ :: second))
    (hanswer : query.Allows stored answer) (hanswer' : query.Allows stored answer') :
    answer = answer' ∧ AnsweredAlike first second := by
  obtain ⟨hclock, htransport⟩ := halike
  cases query with
  | now =>
      obtain ⟨hnow, hrest⟩ := agree_cons.1 hclock
      exact ⟨hnow, hrest, htransport⟩
  | credential => exact ⟨hanswer.trans hanswer'.symm, hclock, htransport⟩
  | send request => exact AnsweredAlike.of_send ⟨hclock, htransport⟩
  | replace _ | lock | unlock | wait _ => exact ⟨rfl, hclock, htransport⟩

theorem Alike.nil : Alike like [] [] := ⟨rfl, .nil⟩

theorem Alike.cons {query query' : Query} {answer : query.Answer} {answer' : query'.Answer}
    (hquery : List.Forall₂ like query.request?.toList query'.request?.toList)
    (halike : Alike like first second) :
    Alike like (⟨stored, query, answer⟩ :: first) (⟨stored, query', answer'⟩ :: second) := by
  refine ⟨congrArg (stored :: ·) halike.stored, ?_⟩
  rw [requests_cons, requests_cons]
  exact List.rel_append hquery halike.requests

theorem Alike.append {before before' after after' : List Event}
    (hbefore : Alike like before before') (hafter : Alike like after after') :
    Alike like (before ++ after) (before' ++ after') := by
  refine ⟨?_, ?_⟩
  · rw [List.map_append, List.map_append, hbefore.stored, hafter.stored]
  · rw [requests_append, requests_append]
    exact List.rel_append hbefore.requests hafter.requests

end Cons

end Event

/-! ## Programs -/

namespace Program

/-- The programs ask the same, but for requests that are alike. -/
inductive Alike (like : Wire.Request → Wire.Request → Prop) :
    Program α → Program α → Prop where
  | done (a : α) : Alike like (done a) (done a)
  | abort : Alike like abort abort
  | ask {query : Query} {next next' : query.Answer → Program α}
      (hnext : ∀ answer, Alike like (next answer) (next' answer)) :
      Alike like (ask query next) (ask query next')
  | send {request request' : Wire.Request}
      {next next' : Except TransportFault Wire.Response → Program α}
      (hlike : like request request')
      (hnext : ∀ answer, Alike like (next answer) (next' answer)) :
      Alike like (ask (.send request) next) (ask (.send request') next')

theorem Alike.refl (program : Program α) : Alike like program program := by
  induction program with
  | done a => exact .done a
  | abort => exact .abort
  | ask query next ih => exact .ask ih

theorem Alike.bind {program program' : Program α} {f f' : α → Program β}
    (hprogram : Alike like program program') (hf : ∀ a, Alike like (f a) (f' a)) :
    Alike like (program.bind f) (program'.bind f') := by
  induction hprogram with
  | done a => exact hf a
  | abort => exact .abort
  | ask _ ih => exact .ask ih
  | send hlike _ ih => exact .send hlike ih

theorem Alike.cutOff {program program' : Program α}
    (hprogram : Alike like program program') (questions : Nat) :
    Alike like (program.cutOff questions) (program'.cutOff questions) := by
  induction hprogram generalizing questions with
  | done a => exact .refl _
  | abort => exact .refl _
  | ask _ ih =>
      cases questions with
      | zero => exact .done none
      | succ questions => exact .ask fun answer => ih answer questions
  | send hlike _ ih =>
      cases questions with
      | zero => exact .done none
      | succ questions => exact .send hlike fun answer => ih answer questions

/-! ### Runs -/

/-- What the runs of two programs have in common, and what is left of the events. -/
structure RunAlike (like : Wire.Request → Wire.Request → Prop) (backend : Backend σ)
    (backend' : Backend σ') (program program' : Program α) (world : World σ)
    (world' : World σ') (rest rest' : List Event) : Prop where
  result : (program.run backend world).1 = (program'.run backend' world').1
  credential :
    (program.run backend world).2.credential = (program'.run backend' world').2.credential
  events : Event.Alike like (program.events backend world) (program'.events backend' world')
  rest : Event.AnsweredAlike rest rest'

variable (backend : Backend σ) (backend' : Backend σ') {world : World σ}
  {world' : World σ'} {rest rest' : List Event}

theorem RunAlike.ask {query query' : Query} {next : query.Answer → Program α}
    {next' : query'.Answer → Program α} (hstored : world.credential = world'.credential)
    (hquery : List.Forall₂ like query.request?.toList query'.request?.toList)
    (hnext : RunAlike like backend backend' (next (world.answer backend query).1)
      (next' (world'.answer backend' query').1) (world.answer backend query).2
      (world'.answer backend' query').2 rest rest') :
    RunAlike like backend backend' (.ask query next) (.ask query' next') world world'
      rest rest' := by
  refine ⟨hnext.result, hnext.credential, ?_, hnext.rest⟩
  rw [Program.events, Program.events, ← hstored]
  exact .cons hquery hnext.events

/-- Programs that ask alike run alike while they are answered alike. -/
theorem Alike.run (hrefl : ∀ request, like request request) {program program' : Program α}
    (hprogram : Alike like program program') (hstored : world.credential = world'.credential)
    (hanswers : Event.AnsweredAlike (program.events backend world ++ rest)
      (program'.events backend' world' ++ rest')) :
    RunAlike like backend backend' program program' world world' rest rest' := by
  -- What is stored stays the same on both sides, so a question about it has one answer; the
  -- clock and the transport answer alike by assumption.
  induction hprogram generalizing world world' with
  | done a => exact ⟨rfl, hstored, .nil, hanswers⟩
  | abort => exact ⟨rfl, hstored, .nil, hanswers⟩
  | @ask query next next' _ ih =>
      have hleft : (world.answer backend query).2.credential =
          (world'.answer backend' query).2.credential := by
        rw [answer_credential, answer_credential, hstored]
      have hallowed := allows_answer backend world query
      have hallowed' := allows_answer backend' world' query
      rw [events, events, ← hstored] at hanswers
      rw [← hstored] at hallowed'
      obtain ⟨hanswer, hrest⟩ := hanswers.of_cons hallowed hallowed'
      rw [← hanswer] at hrest
      apply RunAlike.ask backend backend' hstored
        (List.forall₂_same.2 fun request _ => hrefl request)
      rw [← hanswer]
      exact ih _ hleft hrest
  | @send request request' next next' hlike _ ih =>
      obtain ⟨hanswer, hrest⟩ := hanswers.of_send
      rw [← hanswer] at hrest
      apply RunAlike.ask backend backend' hstored (.cons hlike .nil)
      rw [← hanswer]
      exact ih _ hstored hrest

/-! ### Series of programs -/

/-- What is seen of programs that run one after another. -/
structure Record (α σ : Type) where
  /-- what each of them ends with -/
  results : List (Option α)
  /-- all that they ask, in order -/
  events : List Event
  /-- the world that they leave -/
  world : World σ

/-- Runs programs one after another, also after one that breaks off. -/
def record (backend : Backend σ) : List (Program α) → World σ → Record α σ
  | [], world => ⟨[], [], world⟩
  | program :: rest, world =>
    let later := record backend rest (program.run backend world).2
    ⟨(program.run backend world).1 :: later.results,
      program.events backend world ++ later.events, later.world⟩

/-- Two records cannot be told apart but for requests that are alike. -/
structure Record.Alike (like : Wire.Request → Wire.Request → Prop) (first : Record α σ)
    (second : Record α σ') : Prop where
  results : first.results = second.results
  events : Event.Alike like first.events second.events
  credential : first.world.credential = second.world.credential

theorem record_alike (hrefl : ∀ request, like request request)
    {programs programs' : List (Program α)}
    (hprograms : List.Forall₂ (Alike like) programs programs')
    (hstored : world.credential = world'.credential)
    (hanswers : Event.AnsweredAlike (record backend programs world).events
      (record backend' programs' world').events) :
    (record backend programs world).Alike like (record backend' programs' world') := by
  induction hprograms generalizing world world' with
  | nil => exact ⟨rfl, .nil, hstored⟩
  | cons hprogram _ ih =>
      have hfirst := hprogram.run backend backend' hrefl hstored hanswers
      have hlater := ih hfirst.credential hfirst.rest
      exact ⟨List.cons_eq_cons.2 ⟨hfirst.result, hlater.results⟩,
        hfirst.events.append hlater.events, hlater.credential⟩

end Program

namespace Call

theorem alike_bind {call call' : Call α} {f f' : α → Call β}
    (hcall : Program.Alike like call.run call'.run)
    (hf : ∀ a, Program.Alike like (f a).run (f' a).run) :
    Program.Alike like (call >>= f).run (call' >>= f').run := by
  apply hcall.bind
  intro result
  cases result with
  | error failure => exact .done _
  | ok a => exact hf a

theorem alike_map {call call' : Call α} (f : α → β)
    (hcall : Program.Alike like call.run call'.run) :
    Program.Alike like (f <$> call).run (f <$> call').run := by
  rw [map_eq_pure_bind, map_eq_pure_bind]
  exact alike_bind hcall fun a => .refl _

theorem alike_locked {call call' : Call α}
    (hcall : Program.Alike like call.run call'.run) :
    Program.Alike like (locked call).run (locked call').run := by
  rw [run_locked, run_locked]
  exact .ask fun _ => hcall.bind fun result => .refl _

end Call
end BearerClient
