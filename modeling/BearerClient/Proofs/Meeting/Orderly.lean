import BearerClient.Proofs.Meeting.Turns

/-!
# Every meeting is orderly

No step breaks the order of a meeting: a party that takes the lock begins a turn,
one that holds it goes on with its turn or ends it, and one that only looks
changes nothing.  So the order holds after any number of steps, and a turn that
is under way can always be brought to its end.
-/

namespace BearerClient.Meeting

open Program

variable {ι : Type} {α : ι → Type} [DecidableEq ι]
  {programs : (i : ι) → Program (α i)} {start : Credential}
  {trace trace' : Trace ι} {meeting final : Meeting α} {i : ι}

theorem opening_orderly : Orderly programs start [] (opening programs start) where
  nodup := List.nodup_nil
  callers := by simp [Trace.order]
  phase := .idle rfl .nil rfl
  aside _ _ := .waiting rfl rfl

/-! ## The party that moves -/

theorem Turns.finished {order : List ι} {stored : Credential}
    (hturns : Turns programs start trace meeting order stored) (hmem : i ∈ order) :
    ∃ a, meeting.stances i = .ready (.done a) := by
  induction hturns with
  | nil => cases hmem
  | snoc _ hdone _ ih =>
      rcases List.mem_append.1 hmem with hmem | hmem
      · exact ih hmem
      · cases List.mem_singleton.1 hmem
        exact ⟨_, hdone⟩

/-- A party that took the lock and is not at its end still has its turn. -/
theorem Phase.held_of_busy (hphase : Phase programs start trace meeting)
    (hmem : i ∈ trace.order) (hbusy : ∀ a, meeting.stances i ≠ .ready (.done a)) :
    ∃ past before rest, Held programs start trace meeting past i before rest := by
  cases hphase with
  | idle _ hturns _ =>
      obtain ⟨a, hdone⟩ := hturns.finished hmem
      exact absurd hdone (hbusy a)
  | @held past j before rest hheld =>
      rw [hheld.order] at hmem
      rcases List.mem_append.1 hmem with hmem | hmem
      · obtain ⟨a, hdone⟩ := hheld.turns.finished hmem
        exact absurd hdone (hbusy a)
      · cases List.mem_singleton.1 hmem
        exact ⟨past, before, rest, hheld⟩

theorem Held.not_mem (horderly : Orderly programs start trace meeting)
    {past : List ι} {before : Credential} {rest : Program (α i)}
    (hheld : Held programs start trace meeting past i before rest) : i ∉ past := by
  have hnodup := horderly.nodup
  rw [hheld.order, List.nodup_append] at hnodup
  exact fun hmem => hnodup.2.2 i hmem i (by simp) rfl

/-- What happens under the lock is not touched by who has not taken it. -/
theorem Phase.moves (hmoves : Moves i trace trace' meeting final)
    (hnew : i ∉ trace.order) (horder : trace'.order = trace.order)
    (hholder : final.holder = meeting.holder)
    (hcredential : final.credential = meeting.credential)
    (hsent : final.sent = meeting.sent)
    (hphase : Phase programs start trace meeting) :
    Phase programs start trace' final := by
  cases hphase with
  | idle hfree hturns hrequests =>
      refine .idle (hholder.trans hfree) ?_ ?_
      · rw [horder, hcredential]
        exact hturns.moves hmoves
      · rw [horder, hsent, hrequests, hmoves.requestsOf hnew]
  | @held past j before rest hheld =>
      have hne : j ≠ i := by
        rintro rfl
        exact hnew (by simp [hheld.order])
      have hpast : i ∉ past := fun hmem => hnew (by simp [hheld.order, hmem])
      exact .held {
        holder := hholder.trans hheld.holder
        order := horder.trans hheld.order
        turns := hheld.turns.moves hmoves
        rest_eq := by rw [hmoves.stances j hne, hheld.rest_eq]
        leads := by
          rw [hmoves.events j hne, hcredential]
          exact hheld.leads
        body := by
          rw [hcredential]
          exact hheld.body
        sent := by
          rw [hsent, hheld.sent, hmoves.requestsOf hpast, hmoves.stances j hne,
            Trace.requestsOf, Trace.requestsOf, hmoves.events j hne] }

/-- The parties that have not taken the lock stay aside. -/
theorem Orderly.asides (horderly : Orderly programs start trace meeting)
    (hmoves : Moves i trace trace' meeting final)
    (hkept : (trace'.order = trace.order ∧
        final.credential = meeting.credential) ∨
      Recorded programs start trace meeting trace.order meeting.credential)
    {j : ι} (hne : j ≠ i) (hnew : j ∉ trace'.order) :
    Aside programs start trace' final j := by
  obtain ⟨later, hlater⟩ := hmoves.trace
  have hold : j ∉ trace.order := fun hmem => hnew (by simp [hlater, hmem])
  exact (horderly.aside j hold).moves hmoves hne hkept

/-! ## Steps -/

section Answers

variable {query : Query} {next : query.Answer → Program (α i)}
  {answer : query.Answer}

theorem Orderly.takes (horderly : Orderly programs start trace meeting)
    (hanswers : Answers meeting i query next answer final)
    (hnew : i ∉ trace.order) {body : Program (α i)} (hbody : body.IsBody 1)
    (hprogram : programs i = locked body)
    (hstance : meeting.stances i = .ready (programs i))
    (hevents : trace.eventsOf i = []) :
    Orderly programs start
      (trace ++ [(i, ⟨meeting.credential, query, answer⟩)]) final := by
  have hmoves := hanswers.moves trace
  have hrest := hanswers.rest
  rw [hstance, hprogram, locked_eq] at hrest
  cases hrest
  obtain ⟨hfree, htaken⟩ := hanswers.passes
  have horder : Trace.order (trace ++ [(i, ⟨meeting.credential, .lock, answer⟩)]) =
      trace.order ++ [i] := by simp [Trace.order]
  have hcredential : final.credential = meeting.credential := hanswers.credential
  cases horderly.phase with
  | held hheld =>
      rw [hheld.holder] at hfree
      cases hfree
  | idle _ hturns hsent =>
      refine ⟨?_, ?_, .held {
        holder := htaken
        order := horder
        turns := hturns.moves hmoves
        rest_eq := by rw [hanswers.stances, Function.update_self]; rfl
        leads := ?_
        body := .inr ⟨hbody, hcredential⟩
        sent := ?_ }, ?_⟩
      · rw [horder, List.nodup_append]
        refine ⟨horderly.nodup, by simp, ?_⟩
        rintro j hj k hk rfl
        exact hnew (List.mem_singleton.1 hk ▸ hj)
      · intro j hj
        rw [horder, List.mem_append, List.mem_singleton] at hj
        rcases hj with hj | rfl
        · exact horderly.callers j hj
        · exact ⟨body, hprogram⟩
      · rw [Trace.eventsOf_append_self, hevents, hcredential, hprogram, locked_eq]
        exact Leads.nil.snoc answer trivial
      · rw [hanswers.sent, hsent, hmoves.requestsOf hnew, Trace.requestsOf_append_self,
          hanswers.stances, Function.update_self, Trace.requestsOf, hevents]
        simp [Query.request?]
      · intro j hj
        have hne : j ≠ i := by
          rintro rfl
          exact hj (by simp [horder])
        exact horderly.asides hmoves (.inr ⟨trace.order, .inl rfl, hturns⟩) hne hj

theorem Orderly.looks (horderly : Orderly programs start trace meeting)
    (hanswers : Answers meeting i query next answer final)
    (hnew : i ∉ trace.order) {see : Credential → α i}
    (hprogram : programs i = looking see)
    (hstance : meeting.stances i = .ready (programs i)) :
    Orderly programs start
      (trace ++ [(i, ⟨meeting.credential, query, answer⟩)]) final := by
  have hmoves := hanswers.moves trace
  have hrest := hanswers.rest
  rw [hstance, hprogram, looking] at hrest
  cases hrest
  have hlock : ¬Query.credential.MovesLock := id
  have horder := Trace.order_of_not_movesLock hlock trace i meeting.credential
    answer
  have hcredential : final.credential = meeting.credential := hanswers.credential
  refine ⟨by rw [horder]; exact horderly.nodup,
    by rw [horder]; exact horderly.callers,
    horderly.phase.moves hmoves hnew horder hanswers.passes hcredential
      hanswers.sent, ?_⟩
  intro j hj
  by_cases hne : j = i
  · cases hne
    have hanswer : answer = meeting.credential := hanswers.allows
    refine .seen hprogram ?_ rfl (.inl ⟨horder, hanswer.trans hcredential.symm⟩)
    rw [hanswers.stances, Function.update_self]
  · exact horderly.asides hmoves (.inl ⟨horder, hcredential⟩) hne hj

variable {past : List ι} {before : Credential}

theorem Orderly.goesOn (horderly : Orderly programs start trace meeting)
    {next' : query.Answer → Program (α i)}
    (hheld : Held programs start trace meeting past i before (.ask query next'))
    (hanswers : Answers meeting i query next answer final) :
    Orderly programs start
      (trace ++ [(i, ⟨meeting.credential, query, answer⟩)]) final := by
  have hmoves := hanswers.moves trace
  have hrest := hanswers.rest
  rw [hheld.rest_eq] at hrest
  cases hrest
  have hlock : ¬query.MovesLock := by
    rcases hheld.body with hbody | ⟨hbody, -⟩ <;> exact hbody.1
  have horder := Trace.order_of_not_movesLock hlock trace i meeting.credential
    answer
  -- The one write of the turn is its first, and it finds what the turn has found.
  have hwrites : query.writes = 0 ∨
      meeting.credential = before ∧ (next' answer).IsBody 0 := by
    rcases hheld.body with ⟨-, hquery, -⟩ | ⟨⟨-, hquery, hnext⟩, hsame⟩
    · exact .inl (by omega)
    · by_cases hzero : query.writes = 0
      · exact .inl hzero
      · refine .inr ⟨hsame, ?_⟩
        have hone := hnext answer
        rwa [show 1 - query.writes = 0 by omega] at hone
  have hkept : (Trace.order
        (trace ++ [(i, ⟨meeting.credential, query, answer⟩)]) = trace.order ∧
        final.credential = meeting.credential) ∨
      Recorded programs start trace meeting trace.order meeting.credential := by
    rcases hwrites with hzero | ⟨hsame, -⟩
    · exact .inl ⟨horder,
        hanswers.credential.trans (Query.leaves_of_writes _ hzero)⟩
    · exact .inr ⟨past, .inr ⟨i, hheld.order⟩, hsame ▸ hheld.turns⟩
  refine ⟨by rw [horder]; exact horderly.nodup,
    by rw [horder]; exact horderly.callers, .held {
      holder := (Query.passes_of_not_movesLock hlock hanswers.passes).trans
        hheld.holder
      order := horder.trans hheld.order
      turns := hheld.turns.moves hmoves
      rest_eq := by rw [hanswers.stances, Function.update_self]; rfl
      leads := ?_
      body := ?_
      sent := ?_ }, ?_⟩
  · rw [Trace.eventsOf_append_self, hanswers.credential]
    exact hheld.leads.snoc answer hanswers.allows
  · rcases hwrites with hzero | ⟨-, hbody⟩
    · rw [hanswers.credential, Query.leaves_of_writes _ hzero]
      rcases hheld.body with ⟨-, -, hnext⟩ | ⟨⟨-, -, hnext⟩, hsame⟩
      · exact .inl (by simpa using hnext answer)
      · exact .inr ⟨by simpa [hzero] using hnext answer, hsame⟩
    · exact .inl hbody
  · rw [hanswers.sent, hheld.sent, hanswers.flying,
      hmoves.requestsOf (hheld.not_mem horderly), Trace.requestsOf_append_self,
      hanswers.stances, Function.update_self]
    simp
  · intro j hj
    have hne : j ≠ i := by
      rintro rfl
      exact hj (by simp [horder, hheld.order])
    exact horderly.asides hmoves hkept hne hj

theorem Orderly.releases (horderly : Orderly programs start trace meeting)
    {a : α i} (hheld : Held programs start trace meeting past i before (.done a))
    (hanswers : Answers meeting i query next answer final) :
    final.holder = none ∧ Orderly programs start
      (trace ++ [(i, ⟨meeting.credential, query, answer⟩)]) final := by
  have hmoves := hanswers.moves trace
  have hrest := hanswers.rest
  rw [hheld.rest_eq] at hrest
  cases hrest
  obtain ⟨-, hfree⟩ := hanswers.passes
  have horder : Trace.order
      (trace ++ [(i, ⟨meeting.credential, .unlock, answer⟩)]) = past ++ [i] := by
    rw [← hheld.order]
    simp [Trace.order]
  have hsame := horder.trans hheld.order.symm
  have hcredential : final.credential = meeting.credential := hanswers.credential
  refine ⟨hfree, by rw [hsame]; exact horderly.nodup,
    by rw [hsame]; exact horderly.callers, .idle hfree ?_ ?_, ?_⟩
  · rw [horder, hcredential]
    refine (hheld.turns.moves hmoves).snoc (a := a) ?_ ?_
    · rw [hanswers.stances, Function.update_self]
    · rw [Trace.eventsOf_append_self]
      exact hheld.leads.snoc answer trivial
  · rw [horder, List.flatMap_append, hanswers.sent, hheld.sent, hanswers.flying,
      hmoves.requestsOf (hheld.not_mem horderly), List.flatMap_singleton,
      Trace.requestsOf_append_self]
    simp [Query.request?]
  · intro j hj
    have hne : j ≠ i := by
      rintro rfl
      exact hj (by simp [horder])
    exact horderly.asides hmoves (.inl ⟨hsame, hcredential⟩) hne hj

theorem Orderly.answers (hattends : ∀ i, (programs i).Attends)
    (horderly : Orderly programs start trace meeting)
    (hanswers : Answers meeting i query next answer final) :
    Orderly programs start
      (trace ++ [(i, ⟨meeting.credential, query, answer⟩)]) final := by
  have hbusy := (hanswers.moves trace).busy
  by_cases hmem : i ∈ trace.order
  · obtain ⟨past, before, rest, hheld⟩ :=
      horderly.phase.held_of_busy hmem hbusy
    cases rest with
    | done a => exact (horderly.releases hheld hanswers).2
    | abort =>
        rcases hheld.body with hbody | ⟨hbody, -⟩ <;> exact hbody.elim
    | ask query' next' =>
        have hrest := hanswers.rest
        rw [hheld.rest_eq] at hrest
        cases hrest
        exact horderly.goesOn hheld hanswers
  · cases horderly.aside i hmem with
    | seen _ hstance _ => exact absurd hstance (hbusy _)
    | waiting hstance hevents =>
        have hattend := hattends i
        generalize hprogram : programs i = program at hattend
        cases hattend with
        | turn hbody =>
            exact horderly.takes hanswers hmem hbody hprogram hstance hevents
        | look see => exact horderly.looks hanswers hmem hprogram hstance

end Answers

theorem Orderly.sends (hattends : ∀ i, (programs i).Attends)
    (horderly : Orderly programs start trace meeting) {request : Wire.Request}
    (hsends : Sends meeting i request final) :
    Orderly programs start trace final := by
  have hmoves := hsends.moves trace
  obtain ⟨next, hrest⟩ := hsends.rest
  by_cases hmem : i ∈ trace.order
  · obtain ⟨past, before, rest, hheld⟩ :=
      horderly.phase.held_of_busy hmem hmoves.busy
    refine ⟨horderly.nodup, horderly.callers, .held {
      holder := hsends.holder.trans hheld.holder
      order := hheld.order
      turns := hheld.turns.moves hmoves
      rest_eq := hsends.keeps.trans hheld.rest_eq
      leads := by
        rw [hsends.credential]
        exact hheld.leads
      body := by
        rw [hsends.credential]
        exact hheld.body
      sent := by
        rw [hsends.sent, hheld.sent, hsends.flying, hsends.flies,
          List.append_nil] }, ?_⟩
    intro j hj
    have hne : j ≠ i := by
      rintro rfl
      exact hj hmem
    exact horderly.asides hmoves (.inl ⟨rfl, hsends.credential⟩) hne hj
  · -- Who has not taken the lock has nothing to send.
    cases horderly.aside i hmem with
    | seen _ hstance _ => exact absurd hstance (hmoves.busy _)
    | waiting hstance _ =>
        rw [hstance, Stance.rest_ready] at hrest
        have hattend := hattends i
        rw [hrest] at hattend
        generalize hprogram : Program.ask (.send request) next = program at hattend
        cases hattend <;> cases hprogram

theorem Orderly.step (hattends : ∀ i, (programs i).Attends)
    (horderly : Orderly programs start trace meeting)
    {answered : Option (ι × Event)} (hstep : Step meeting answered final) :
    Orderly programs start (trace ++ answered.toList) final := by
  rcases hstep.cases with
    ⟨i, query, next, answer, rfl, hanswers⟩ | ⟨i, request, rfl, hsends⟩
  · exact horderly.answers hattends hanswers
  · rw [Option.toList_none, List.append_nil]
    exact horderly.sends hattends hsends

theorem Run.orderly (hattends : ∀ i, (programs i).Attends)
    (hrun : Run (opening programs start) trace meeting) :
    Orderly programs start trace meeting := by
  induction hrun with
  | nil => exact opening_orderly
  | snoc _ hstep ih => exact ih.step hattends hstep

end BearerClient.Meeting
