import BearerClient.Proofs.Delivery.Causes
import BearerClient.Proofs.Meeting.Tasks
import BearerClient.Proofs.Program.CutOff

/-!
# Cancelled dispatches

A dispatch that is cancelled has asked what it would have asked first, and stops there.
The store is left as it was or as the token of the dispatch leaves it: a dispatch writes at
most once, so no moment lies between the two.  A request that is answered with a 401 is the
last one, cancelled or not.
-/

namespace BearerClient

namespace Event

/-! ## Events that write -/

/-- The credential that is stored after some events. -/
def left (stored : Credential) (events : List Event) : Credential :=
  events.foldl (fun stored event => event.query.leaves stored) stored

/-- How often events replace the stored credential. -/
def writes (events : List Event) : Nat := (events.map fun event => event.query.writes).sum

theorem left_append (stored : Credential) (first second : List Event) :
    left stored (first ++ second) = left (left stored first) second :=
  List.foldl_append

theorem writes_cons (event : Event) (rest : List Event) :
    writes (event :: rest) = event.query.writes + writes rest := List.sum_cons

theorem writes_append (first second : List Event) :
    writes (first ++ second) = writes first + writes second := by
  rw [writes, List.map_append, List.sum_append, ← writes, ← writes]

theorem left_of_writes {events : List Event} (hwrites : writes events = 0)
    (stored : Credential) : left stored events = stored := by
  induction events generalizing stored with
  | nil => rfl
  | cons event rest ih =>
      obtain ⟨hevent, hrest⟩ := Nat.add_eq_zero_iff.1 hwrites
      have hkept : event.query.leaves stored = stored :=
        Query.leaves_of_writes stored hevent
      rw [left, List.foldl_cons, hkept]
      exact ih hrest stored

/-- Where there is one write at most, every beginning comes before it or after it. -/
theorem left_of_prefix {first second : List Event} (hwrites : writes (first ++ second) ≤ 1)
    (stored : Credential) :
    left stored first = stored ∨ left stored first = left stored (first ++ second) := by
  rw [writes_append] at hwrites
  by_cases hfirst : writes first = 0
  · exact .inl (left_of_writes hfirst stored)
  · have hsecond : writes second = 0 := by omega
    rw [left_append, left_of_writes hsecond]
    exact .inr rfl

/-! ## Events after a 401 -/

/-- The event is a request that is answered with a 401. -/
def IsRejected (event : Event) : Prop :=
  ∃ request response, event.answered? = some (request, .ok response) ∧
    response.status = 401

/-- After a 401 nothing follows but that the lock is given back. -/
def Yields (events : List Event) : Prop :=
  events.Pairwise fun first later => first.IsRejected → later.query = .unlock

theorem not_isRejected {stored : Credential} {query : Query} {answer : query.Answer}
    (hquery : query.request? = none) : ¬IsRejected ⟨stored, query, answer⟩ := by
  rintro ⟨request, response, hanswered, -⟩
  cases query <;> cases hanswered
  cases hquery

theorem yields_of_silent {events : List Event}
    (hsilent : ∀ event ∈ events, ¬event.IsRejected) : Yields events := by
  induction events with
  | nil => exact .nil
  | cons event rest ih =>
      refine .cons (fun _ _ hrejected => absurd hrejected (hsilent event (by simp))) ?_
      exact ih fun event hevent => hsilent event (by simp [hevent])

end Event

/-- A run leaves what its events do. -/
theorem Program.run_credential {α σ : Type} (backend : Backend σ) (program : Program α)
    (world : World σ) :
    (program.run backend world).2.credential =
      Event.left world.credential (program.events backend world) := by
  induction program generalizing world with
  | done a => rfl
  | abort => rfl
  | ask query next ih =>
      rw [events, Event.left, List.foldl_cons, ← answer_credential backend]
      exact ih _ _

theorem Program.Course.writes_le {α : Type} {program : Program α} {events : List Event}
    {result : Option α} {writes : Nat} (hcourse : program.Course events result)
    (hbody : program.IsBody writes) : Event.writes events ≤ writes := by
  induction hcourse generalizing writes with
  | done a => exact Nat.zero_le _
  | abort => exact Nat.zero_le _
  | @ask query next stored answer events result _ ih =>
      obtain ⟨-, hquery, hnext⟩ := hbody
      have hrest := ih (hnext answer)
      rw [Event.writes_cons]
      dsimp only
      omega

/-- Whoever has the lock writes once at most, and nobody else does. -/
theorem Program.Course.attends_writes {α : Type} {program : Program α} {events : List Event}
    {result : Option α} (hcourse : program.Course events result)
    (hattends : program.Attends) : Event.writes events ≤ 1 := by
  cases hattends with
  | turn hbody =>
      rw [locked_eq] at hcourse
      obtain ⟨first, _, inner, rfl, hinner⟩ := course_ask.1 hcourse
      have hfirst : Event.writes (⟨first, .lock, ()⟩ :: inner) = Event.writes inner :=
        (Event.writes_cons _ _).trans (Nat.zero_add _)
      rw [hfirst]
      rcases course_bind.1 hinner with ⟨hnone, -⟩ | ⟨before, after, ended, rfl, hbefore, hafter⟩
      · exact hnone.writes_le hbody
      · obtain ⟨last, _, _, rfl, hdone⟩ := course_ask.1 hafter
        obtain ⟨rfl, -⟩ := course_done.1 hdone
        rw [Event.writes_append]
        exact hbefore.writes_le hbody
  | look see =>
      obtain ⟨stored, _, _, rfl, hdone⟩ := course_ask.1 hcourse
      obtain ⟨rfl, -⟩ := course_done.1 hdone
      exact Nat.zero_le _

theorem Program.Course.not_isRejected {α : Type} {program : Program α} {events : List Event}
    {result : Option α} {holds : α → Prop} (hcourse : program.Course events result)
    (hfree : program.Within (Wire.Request.price 1 1) holds 0) :
    ∀ event ∈ events, ¬event.IsRejected := by
  rintro ⟨stored, query, answer⟩ hevent ⟨request, response, hanswered, -⟩
  cases query with
  | send sent =>
      have hfree := Nat.eq_zero_of_le_zero (hcourse.requests_le hfree)
      have hrequest : sent ∈ Event.requests events :=
        List.mem_filterMap.2 ⟨_, hevent, rfl⟩
      have hprice : sent.price 1 1 = 0 :=
        List.sum_eq_zero_iff_forall_eq_nat.1 hfree _ (List.mem_map_of_mem hrequest)
      rw [Wire.Request.price, ite_self] at hprice
      cases hprice
  | _ => cases hanswered

/-! ## Calls that yield -/

namespace Call

variable {α β : Type}

/-- Whatever a call is answered, after a 401 it fails without another question, except that
it gives the lock back. -/
def Yields (call : Call α) : Prop :=
  ∀ events result, call.run.Course events result →
    Event.Yields events ∧
      ∀ event ∈ events, event.IsRejected → ∃ failure, result = some (.error failure)

theorem yields_of_within {call : Call α}
    (hfree : call.run.Within (Wire.Request.price 1 1) (Settled fun _ => True) 0) :
    call.Yields := by
  intro events result hcourse
  have hsilent := hcourse.not_isRejected hfree
  exact ⟨Event.yields_of_silent hsilent, fun event hevent hrejected =>
    absurd hrejected (hsilent event hevent)⟩

theorem Yields.bind {call : Call α} {f : α → Call β} (hcall : call.Yields)
    (hf : ∀ a, (f a).Yields) : (call >>= f).Yields := by
  intro events result hcourse
  rw [run_bind, Program.course_bind] at hcourse
  rcases hcourse with ⟨hnone, rfl⟩ | ⟨before, after, failure | a, rfl, hbefore, hafter⟩
  · obtain ⟨hyields, hfails⟩ := hcall _ _ hnone
    refine ⟨hyields, fun event hevent hrejected => ?_⟩
    obtain ⟨failure, hfailure⟩ := hfails event hevent hrejected
    cases hfailure
  · obtain ⟨rfl, rfl⟩ := course_throw.1 hafter
    rw [List.append_nil]
    exact ⟨(hcall _ _ hbefore).1, fun _ _ _ => ⟨failure, rfl⟩⟩
  · -- The first call has a result, so none of its requests was rejected.
    obtain ⟨hyields, hfails⟩ := hcall _ _ hbefore
    obtain ⟨hyields', hfails'⟩ := hf a _ _ hafter
    have hnone : ∀ event ∈ before, ¬event.IsRejected := by
      intro event hevent hrejected
      obtain ⟨failure, hfailure⟩ := hfails event hevent hrejected
      cases hfailure
    refine ⟨List.pairwise_append.2 ⟨hyields, hyields', fun event hevent _ _ hrejected =>
      absurd hrejected (hnone event hevent)⟩, fun event hevent hrejected => ?_⟩
    rcases List.mem_append.1 hevent with hmember | hmember
    · exact absurd hrejected (hnone event hmember)
    · exact hfails' event hmember hrejected

theorem Yields.locked {call : Call α} (hcall : call.Yields) : (locked call).Yields := by
  intro events result hcourse
  rw [run_locked, Program.course_ask] at hcourse
  obtain ⟨first, _, inner, rfl, hinner⟩ := hcourse
  have hlock : ¬Event.IsRejected ⟨first, .lock, ()⟩ := Event.not_isRejected rfl
  rcases Program.course_bind.1 hinner with ⟨hnone, rfl⟩ |
    ⟨before, after, ended, rfl, hbefore, hafter⟩
  · obtain ⟨hyields, hfails⟩ := hcall _ _ hnone
    refine ⟨hyields.cons fun _ _ hrejected => absurd hrejected hlock, ?_⟩
    intro event hevent hrejected
    rcases List.mem_cons.1 hevent with rfl | hmember
    · exact absurd hrejected hlock
    · obtain ⟨failure, hfailure⟩ := hfails event hmember hrejected
      cases hfailure
  · obtain ⟨last, _, _, rfl, hdone⟩ := Program.course_ask.1 hafter
    obtain ⟨rfl, rfl⟩ := Program.course_done.1 hdone
    have hunlock : ¬Event.IsRejected ⟨last, .unlock, ()⟩ := Event.not_isRejected rfl
    obtain ⟨hyields, hfails⟩ := hcall _ _ hbefore
    have hinner : Event.Yields (before ++ [⟨last, .unlock, ()⟩]) := by
      refine List.pairwise_append.2 ⟨hyields, List.pairwise_singleton _ _, ?_⟩
      intro event _ later hlater _
      rw [List.mem_singleton.1 hlater]
    refine ⟨hinner.cons fun _ _ hrejected => absurd hrejected hlock, ?_⟩
    intro event hevent hrejected
    rcases List.mem_cons.1 hevent with rfl | hmember
    · exact absurd hrejected hlock
    rcases List.mem_append.1 hmember with hmember | hmember
    · exact hfails event hmember hrejected
    · rw [List.mem_singleton.1 hmember] at hrejected
      exact absurd hrejected hunlock

end Call

namespace Store

/-- A 401 is no token. -/
theorem received_of_rejected (endpoint : Endpoint) {response : Wire.Response}
    (hstatus : response.status = 401) :
    ∃ failure, received endpoint (.ok response) = .error failure := by
  obtain ⟨status, headers, body⟩ := response
  cases hstatus
  cases body with
  | error source => exact ⟨_, rfl⟩
  | ok body => exact ⟨_, rfl⟩

variable (config : Config)

theorem perform_yields (exchange : Exchange) : (perform config exchange).Yields := by
  intro events result hcourse
  rw [perform_run] at hcourse
  cases hrequest : config.grantRequest exchange.endpoint (exchange.grant config.login) with
  | error failure =>
      rw [hrequest] at hcourse
      obtain ⟨rfl, rfl⟩ := Program.course_done.1 hcourse
      exact ⟨.nil, fun event hevent => absurd hevent List.not_mem_nil⟩
  | ok request =>
      rw [hrequest] at hcourse
      obtain ⟨stored, answer, rest, rfl, hrest⟩ := Program.course_ask.1 hcourse
      have hsilent := hrest.not_isRejected (settle_within (received_settled _ answer))
      have hfirst : Event.IsRejected ⟨stored, .send request, answer⟩ →
          rest = [] ∧ ∃ failure, result = some (.error failure) := by
        rintro ⟨_, response, hanswered, hstatus⟩
        obtain ⟨-, rfl⟩ := Prod.mk.inj (Option.some.inj hanswered)
        obtain ⟨failure, hreceived⟩ := received_of_rejected exchange.endpoint hstatus
        simp only [hreceived] at hrest
        obtain ⟨hnil, hresult⟩ := Program.course_done.1 hrest
        exact ⟨hnil, failure, hresult⟩
      constructor
      · refine List.pairwise_cons.2 ⟨fun later hlater hrejected => ?_, ?_⟩
        · rw [(hfirst hrejected).1] at hlater
          cases hlater
        · exact Event.yields_of_silent hsilent
      · intro event hevent hrejected
        rcases List.mem_cons.1 hevent with rfl | hmember
        · exact (hfirst hrejected).2
        · exact absurd hrejected (hsilent event hmember)

theorem getToken_yields : (getToken config).Yields := by
  have hdecision : (exchangeForToken config).Yields := by
    have hfree : (exchangeForToken config).run.Within (Wire.Request.price 1 1)
        (Call.Settled fun _ => True) 0 := by
      rw [exchangeForToken_run]
      exact decision_within _
    exact Call.yields_of_within hfree
  have htoken : (Call.ask .credential >>= fun credential =>
      pure credential.token : Call String).Yields :=
    Call.yields_of_within ⟨Nat.zero_le _, fun _ => .ok trivial⟩
  apply Call.Yields.locked
  apply hdecision.bind
  intro exchange
  apply Call.Yields.bind _ fun _ => htoken
  cases exchange with
  | none => exact Call.yields_of_within (Call.Settled.ok trivial)
  | some exchange => exact perform_yields config exchange

theorem getToken_writes {events : List Event} {result : Option (Except Failure String)}
    (hcourse : (getToken config).run.Course events result) : Event.writes events ≤ 1 :=
  hcourse.attends_writes (Task.attends config .getToken)

end Store

namespace Delivery

variable {config : Config} {call : ApiCall}

/-- A dispatch obtains a token and may then send its call, with no question after that. -/
theorem dispatch_split {events : List Event} {result : Option (Except Failure Reply)}
    (hcourse : (dispatch config call).run.Course events result) :
    events = [] ∨ ∃ before after ended, events = before ++ after ∧
      (Store.getToken config).run.Course before ended ∧
      (after = [] ∨ ∃ token stored request answer, ended = some (.ok token) ∧
        after = [⟨stored, .send request, answer⟩]) := by
  cases htarget : call.target config with
  | error failure =>
      rw [dispatch_refused htarget] at hcourse
      exact .inl (Call.course_throw.1 hcourse).1
  | ok url =>
      rw [dispatch_run htarget, Program.course_bind] at hcourse
      rcases hcourse with ⟨hnone, -⟩ | ⟨before, after, ended, rfl, hbefore, hafter⟩
      · exact .inr ⟨events, [], none, (List.append_nil _).symm, hnone, .inl rfl⟩
      refine .inr ⟨before, after, some ended, rfl, hbefore, ?_⟩
      rcases deliver_course.1 hafter with ⟨failure, rfl, hdone⟩ |
        ⟨token, failure, rfl, -, hdone⟩ |
        ⟨token, request, stored, answer, rest, rfl, -, rfl, hdone⟩
      · exact .inl (Program.course_done.1 hdone).1
      · exact .inl (Program.course_done.1 hdone).1
      · obtain ⟨rfl, -⟩ := Program.course_done.1 hdone
        exact .inr ⟨token, stored, request, answer, rfl, rfl⟩

theorem dispatch_writes {events : List Event} {result : Option (Except Failure Reply)}
    (hcourse : (dispatch config call).run.Course events result) : Event.writes events ≤ 1 := by
  rcases dispatch_split hcourse with rfl | ⟨before, after, ended, rfl, hbefore, hafter⟩
  · exact Nat.zero_le _
  have hwrites := Store.getToken_writes config hbefore
  rw [Event.writes_append]
  rcases hafter with rfl | ⟨_, _, _, _, -, rfl⟩
  · exact hwrites
  · exact hwrites

theorem dispatch_yields {events : List Event} {result : Option (Except Failure Reply)}
    (hcourse : (dispatch config call).run.Course events result) : Event.Yields events := by
  rcases dispatch_split hcourse with rfl | ⟨before, after, ended, rfl, hbefore, hafter⟩
  · exact .nil
  -- The call is sent only with a token, so no exchange for it was rejected.
  obtain ⟨hyields, hfails⟩ := Store.getToken_yields config _ _ hbefore
  rcases hafter with rfl | ⟨token, stored, request, answer, rfl, rfl⟩
  · rwa [List.append_nil]
  · refine List.pairwise_append.2 ⟨hyields, List.pairwise_singleton _ _, ?_⟩
    intro event hevent _ _ hrejected
    obtain ⟨failure, hfailure⟩ := hfails event hevent hrejected
    cases hfailure

/-! ## The cut -/

section Runs

variable {σ : Type} (backend : Backend σ) (world : World σ)

theorem deliver_writes (url : String) (retriesLeft : Nat)
    (ended : Option (Except Failure String) × World σ) :
    Event.writes
      (Program.eventsAfter backend (deliver config call url retriesLeft) ended) = 0 := by
  obtain ⟨_ | token, world⟩ := ended
  · rfl
  · rcases Client.events_deliver backend world call url retriesLeft token with
      hnothing | ⟨event, request, hsent, hquery, -⟩
    · rw [Program.eventsAfter, hnothing]
      rfl
    · rw [Program.eventsAfter, hsent, Event.writes_cons, hquery]
      rfl

/-- Before its end a dispatch leaves the store as it was or as its token leaves it. -/
theorem dispatch_left {asked : List Event}
    (hasked : asked <+: (dispatch config call).run.events backend world) :
    Event.left world.credential asked = world.credential ∨
      Event.left world.credential asked =
        ((Store.getToken config).run.run backend world).2.credential := by
  have hwrites : Event.writes ((dispatch config call).run.events backend world) ≤ 1 :=
    dispatch_writes (Program.course_run backend _ world)
  cases htarget : call.target config with
  | error failure =>
      rw [dispatch_refused htarget] at hasked
      rw [List.prefix_nil.1 hasked]
      exact .inl rfl
  | ok url =>
      -- Of the events of the dispatch only those for its token write, and once at most.
      obtain ⟨rest, hrest⟩ := hasked
      rw [← hrest] at hwrites
      rcases Event.left_of_prefix hwrites world.credential with hkept | hwritten
      · exact .inl hkept
      · rw [hwritten, hrest, Client.events_dispatch backend world htarget,
          Event.left_append, Event.left_of_writes (deliver_writes backend url _ _),
          Program.run_credential]
        exact .inr rfl

variable (config call)

theorem cancelled_events (questions : Nat) :
    (dispatchUnlessCancelled config call (some questions)).run.events backend world =
      ((dispatch config call).run.events backend world).take questions := by
  rw [← Program.events_cutOff]
  apply (Program.events_bind backend _ _ world).trans
  rcases ((dispatch config call).run.cutOff questions).run backend world with ⟨_ | _, _⟩ <;>
    exact List.append_nil _

theorem cancelled_run (questions : Nat) :
    ((dispatchUnlessCancelled config call (some questions)).run.run backend world).1 =
      if questions ≤ ((dispatch config call).run.events backend world).length then
        some (.error .cancelled)
      else ((dispatch config call).run.run backend world).1 := by
  have hbind := Program.run_bind backend ((dispatch config call).run.cutOff questions)
    (fun result => .done (result.getD (.error .cancelled))) world
  apply (congrArg Prod.fst hbind).trans
  by_cases hcut : questions ≤ ((dispatch config call).run.events backend world).length
  · rw [if_pos hcut]
    have hnone := Program.run_cutOff_of_le backend hcut
    generalize ((dispatch config call).run.cutOff questions).run backend world = ended at hnone
    obtain ⟨result, final⟩ := ended
    cases hnone
    rfl
  · rw [if_neg hcut, Program.run_cutOff_of_lt backend (Nat.lt_of_not_le hcut)]
    cases ((dispatch config call).run.run backend world).1 <;> rfl

end Runs

/-- A dispatch that may be cancelled, beside the same one that is not. -/
structure CutsCleanly {σ : Type} (config : Config) (call : ApiCall) (backend : Backend σ)
    (world : World σ) (cancelled : Option Nat) : Prop where
  /-- it asks what comes before the cut, and nothing after it -/
  asked : (dispatchUnlessCancelled config call cancelled).run.events backend world =
    match cancelled with
    | none => (dispatch config call).run.events backend world
    | some questions => ((dispatch config call).run.events backend world).take questions
  sent : ((dispatchUnlessCancelled config call cancelled).run.run backend world).2.sent <+:
    ((dispatch config call).run.run backend world).2.sent
  /-- it fails as cancelled if the cut comes before the end, and else ends as it would -/
  result : ((dispatchUnlessCancelled config call cancelled).run.run backend world).1 =
    match cancelled with
    | none => ((dispatch config call).run.run backend world).1
    | some questions =>
      if questions ≤ ((dispatch config call).run.events backend world).length then
        some (.error .cancelled)
      else ((dispatch config call).run.run backend world).1
  stored :
    ((dispatchUnlessCancelled config call cancelled).run.run backend world).2.credential =
        world.credential ∨
      ((dispatchUnlessCancelled config call cancelled).run.run backend world).2.credential =
        ((Store.getToken config).run.run backend world).2.credential
  /-- after a 401 at most the lock is given back -/
  yields : Event.Yields
    ((dispatchUnlessCancelled config call cancelled).run.events backend world)

/-- What a dispatch that may be cancelled asks and ends with, whoever else is at work. -/
structure CutShort (config : Config) (call : ApiCall) (cancelled : Option Nat)
    (events : List Event) (result : Option (Except Failure Reply)) : Prop where
  /-- it is the beginning of what might have been asked in all, or all of it -/
  beginning : ∃ rest ended, (dispatch config call).run.Course (events ++ rest) ended ∧
    (result = some (.error .cancelled) ∧ cancelled = some events.length ∨
      result = ended ∧ rest = [])
  writes : Event.writes events ≤ 1
  yields : Event.Yields events

variable (config : Config) (call : ApiCall)

theorem cutsCleanly {σ : Type} (backend : Backend σ) (world : World σ)
    (cancelled : Option Nat) : CutsCleanly config call backend world cancelled := by
  have hasked : (dispatchUnlessCancelled config call cancelled).run.events backend world <+:
      (dispatch config call).run.events backend world := by
    cases cancelled with
    | none => exact List.prefix_rfl
    | some questions =>
        rw [cancelled_events]
        exact List.take_prefix _ _
  refine ⟨?_, ?_, ?_, ?_, ?_⟩
  · cases cancelled with
    | none => rfl
    | some questions => exact cancelled_events config call backend world questions
  · rw [Program.run_sent, Program.run_sent, List.prefix_append_right_inj]
    exact hasked.filterMap _
  · cases cancelled with
    | none => rfl
    | some questions => exact cancelled_run config call backend world questions
  · rw [Program.run_credential]
    exact dispatch_left backend world hasked
  · exact (dispatch_yields (Program.course_run backend _ world)).sublist hasked.sublist

theorem cutShort {cancelled : Option Nat} {events : List Event}
    {result : Option (Except Failure Reply)}
    (hcourse : (dispatchUnlessCancelled config call cancelled).run.Course events result) :
    CutShort config call cancelled events result := by
  have hbeginning : ∃ rest ended, (dispatch config call).run.Course (events ++ rest) ended ∧
      (result = some (.error .cancelled) ∧ cancelled = some events.length ∨
        result = ended ∧ rest = []) := by
    cases cancelled with
    | none => exact ⟨[], result, by rwa [List.append_nil], .inr ⟨rfl, rfl⟩⟩
    | some questions =>
        rcases Program.course_bind.1 hcourse with ⟨hnone, rfl⟩ |
          ⟨before, after, reached, rfl, hbefore, hafter⟩
        · obtain ⟨rest, ended, hwhole, ⟨hcut, -⟩ | ⟨hended, rfl, -⟩⟩ := hnone.whole
          · cases hcut
          · exact ⟨[], ended, hwhole, .inr ⟨(Option.map_eq_none_iff.1 hended.symm).symm, rfl⟩⟩
        · obtain ⟨rfl, rfl⟩ := Program.course_done.1 hafter
          rw [List.append_nil]
          obtain ⟨rest, ended, hwhole, ⟨hcut, hlength⟩ | ⟨hended, rfl, -⟩⟩ := hbefore.whole
          · cases hcut
            exact ⟨rest, ended, hwhole, .inl ⟨rfl, congrArg some hlength.symm⟩⟩
          · obtain ⟨result, rfl, rfl⟩ := Option.map_eq_some_iff.1 hended.symm
            exact ⟨[], some result, hwhole, .inr ⟨rfl, rfl⟩⟩
  obtain ⟨rest, ended, hwhole, hends⟩ := hbeginning
  refine ⟨⟨rest, ended, hwhole, hends⟩, ?_, ?_⟩
  · have hwrites := dispatch_writes hwhole
    rw [Event.writes_append] at hwrites
    omega
  · exact (dispatch_yields hwhole).sublist (List.prefix_append events rest).sublist

/-- **A cancellation is a clean cut.**  A dispatch that is cancelled at any point asks, and
sends, the beginning of what it would have asked, and nothing else.  It fails as cancelled
or ends as it would have ended.  What is stored is what was stored before or what the token
of the whole dispatch leaves, and no refresh follows a 401.  A dispatch that is cancelled
before its start does nothing.  Beside others, too, a dispatch that is cancelled has asked
the beginning of what it might have asked, with one write at most. -/
theorem cancellation_cuts (cancelled : Option Nat) :
    (∀ {σ : Type} (backend : Backend σ) (world : World σ),
      CutsCleanly config call backend world cancelled) ∧
    (∀ {σ : Type} (backend : Backend σ) (world : World σ),
      (dispatchUnlessCancelled config call (some 0)).run.events backend world = [] ∧
        (dispatchUnlessCancelled config call (some 0)).run.run backend world =
          (some (.error .cancelled), world)) ∧
    ∀ events result,
      (dispatchUnlessCancelled config call cancelled).run.Course events result →
        CutShort config call cancelled events result :=
  ⟨fun backend world => cutsCleanly config call backend world cancelled,
    fun _ _ => ⟨rfl, rfl⟩, fun _ _ hcourse => cutShort config call hcourse⟩

end Delivery
end BearerClient
