import BearerClient.Proofs.Delivery.Budget
import BearerClient.Rehearsal.Script

/-!
# The retry law

A call that is executed takes turns: a token, the request that bears it, and an
answer.  A turn whose answer rejects the token is followed by a refresh and
another turn, as long as there are attempts left.  The result is the verdict on
the last answer, unless a token, a request or a refresh cannot be had, whose
failure is then the result.

The course of a call is described by its turns.  The proof is by induction on
the attempts that are left: a turn in front of the course of the rest makes the
course of the whole.
-/

namespace BearerClient

namespace Delivery

/-- The answer is a 401 whose body could be read. -/
def rejects : Except TransportFault Wire.Response → Bool
  | .ok response => response.status == 401 && response.body.isOk
  | .error _ => false

/-- What an answer means for a call with no attempts left. -/
def verdict : Except TransportFault Wire.Response → Except Failure Reply
  | .error source => .error (.transport none source)
  | .ok response =>
    match response.body with
    | .error source => .error (.transport (some response.status) source)
    | .ok body =>
      let details := response.details body
      if Wire.Response.isSuccess response.status then
        .ok ⟨response.status, response.headers, body⟩
      else if response.status = 401 then
        .error (.unauthorized details.message details.code)
      else .error (.http response.status details.message details.code
        (Wire.Response.snippet body))

/-- One dispatch of a call, with the worlds before and after it. -/
structure Turn (σ : Type) where
  start : World σ
  token : String
  /-- the world once there is a token -/
  asked : World σ
  request : Wire.Request
  answer : Except TransportFault Wire.Response
  finish : World σ

variable {σ : Type} (config : Config) (backend : Backend σ) (call : ApiCall)
  (url : String)

/-- The turn is the next one of a call in the world where it starts. -/
structure Turn.IsTaken (turn : Turn σ) : Prop where
  token_run : (Store.getToken config).run.run backend turn.start =
    (some (.ok turn.token), turn.asked)
  assembled : call.assemble config url turn.token = .ok turn.request
  answered : turn.asked.answer backend (.send turn.request) =
    (turn.answer, turn.finish)

/-- Rejected turns, each followed by a refresh, lead from one world to another. -/
inductive Retried : World σ → List (Turn σ) → World σ → Prop where
  | nil {world : World σ} : Retried world [] world
  | cons {turn : Turn σ} {turns : List (Turn σ)} {later next : World σ}
      (htaken : turn.IsTaken config backend call url)
      (hrejected : rejects turn.answer = true)
      (hrefreshed : (Store.refresh config).run.run backend turn.finish =
        (some (.ok ()), later))
      (hturns : Retried later turns next) :
      Retried turn.start (turn :: turns) next

/-- The number of turns before the first one that is not rejected. -/
def rejections (turns : List (Turn σ)) : Nat :=
  turns.findIdx fun turn => !rejects turn.answer

/-- All that the turns of a call needed was to be had: there are as many turns
as rejections and retries allow, and the last answer decides. -/
inductive Completed (retries : Nat) (world : World σ) :
    List (Turn σ) → Except Failure Reply → World σ → Prop where
  | intro {earlier : List (Turn σ)} {last : Turn σ} {result : Except Failure Reply}
      (hearlier : Retried config backend call url world earlier last.start)
      (hlast : last.IsTaken config backend call url)
      (hlength : (earlier ++ [last]).length =
        min (rejections (earlier ++ [last])) retries + 1)
      (haccepted : rejections (earlier ++ [last]) ≤ retries →
        result = verdict last.answer)
      (hexhausted : retries < rejections (earlier ++ [last]) →
        ∃ response body, last.answer = .ok response ∧ response.body = .ok body ∧
          result = .error (.unauthorized (response.details body).message
            (response.details body).code)) :
      Completed retries world (earlier ++ [last]) result last.finish

/-- Something that the next turn of a call needed was not to be had. -/
inductive Interrupted (retries : Nat) (world : World σ) :
    List (Turn σ) → Except Failure Reply → World σ → Prop where
  | token {turns : List (Turn σ)} {next final : World σ} {failure : Failure}
      (hturns : Retried config backend call url world turns next)
      (hlength : turns.length ≤ retries)
      (hfailed : (Store.getToken config).run.run backend next =
        (some (.error failure), final)) :
      Interrupted retries world turns (.error failure) final
  | request {turns : List (Turn σ)} {next final : World σ} {token : String}
      {failure : Failure}
      (hturns : Retried config backend call url world turns next)
      (hlength : turns.length ≤ retries)
      (htoken : (Store.getToken config).run.run backend next =
        (some (.ok token), final))
      (hfailed : call.assemble config url token = .error failure) :
      Interrupted retries world turns (.error failure) final
  | refresh {earlier : List (Turn σ)} {last : Turn σ} {final : World σ}
      {failure : Failure}
      (hearlier : Retried config backend call url world earlier last.start)
      (hlast : last.IsTaken config backend call url)
      (hrejected : rejects last.answer = true)
      (hlength : earlier.length < retries)
      (hfailed : (Store.refresh config).run.run backend last.finish =
        (some (.error failure), final)) :
      Interrupted retries world (earlier ++ [last]) (.error failure) final

/-- The course of a call. -/
def Course (retries : Nat) (world : World σ) (turns : List (Turn σ))
    (result : Except Failure Reply) (final : World σ) : Prop :=
  Completed config backend call url retries world turns result final ∨
    Interrupted config backend call url retries world turns result final

/-! ## One round -/

section Round

variable {config : Config} {call : ApiCall} {url : String} {retriesLeft : Nat}
  {rest : Call Reply} {answer : Except TransportFault Wire.Response}

/-- What follows the end of an attempt. -/
def afterAttempt (config : Config) (rest : Call Reply) :
    Except Failure Outcome → Program (Except Failure Reply)
  | .error failure => .done (.error failure)
  | .ok (.success reply) => .done (.ok reply)
  | .ok (.fatal failure) => .done (.error failure)
  | .ok (.retryable _) => (Store.refresh config >>= fun _ => rest : Call Reply).run

theorem round_run :
    (round config call url retriesLeft rest).run =
      (Store.getToken config).run.bind fun token =>
        (deliver config call url retriesLeft token).bind
          (afterAttempt config rest) := by
  rw [round, Call.run_bind, attempt_run, Program.bind_assoc]
  apply Program.bind_congr
  intro token
  apply Program.bind_congr
  intro result
  rcases result with failure | outcome
  · rfl
  · cases outcome <;> rfl

theorem verdict_of_rejects (hrejected : rejects answer = true) :
    ∃ response body, answer = .ok response ∧ response.body = .ok body ∧
      verdict answer = .error (.unauthorized (response.details body).message
        (response.details body).code) := by
  cases answer with
  | error source => cases hrejected
  | ok response =>
      obtain ⟨status, headers, body⟩ := response
      simp only [rejects, Bool.and_eq_true, beq_iff_eq] at hrejected
      obtain ⟨rfl, hread⟩ := hrejected
      cases body with
      | error source => cases hread
      | ok body => exact ⟨_, body, rfl, rfl, rfl⟩

/-- Only a rejection with attempts left is followed by anything. -/
theorem afterAttempt_concluded :
    afterAttempt config rest (concluded retriesLeft answer) =
      if rejects answer = true ∧ 0 < retriesLeft then
        (Store.refresh config >>= fun _ => rest : Call Reply).run
      else .done (verdict answer) := by
  cases answer with
  | error source => rfl
  | ok response =>
      obtain ⟨status, headers, body⟩ := response
      cases body with
      | error source =>
          rw [if_neg (by simp [rejects, Except.isOk, Except.toBool])]
          rfl
      | ok body =>
          by_cases hsuccess : Wire.Response.isSuccess status = true
          · have hstatus : status ≠ 401 := by
              rintro rfl
              exact absurd hsuccess (by decide)
            rw [if_neg (by simp [rejects, hstatus])]
            simp [concluded, verdict, Wire.Response.classify, hsuccess, afterAttempt]
          by_cases hstatus : status = 401
          · subst hstatus
            by_cases hleft : 0 < retriesLeft
            · rw [if_pos ⟨rfl, hleft⟩]
              simp [concluded, Wire.Response.classify, hsuccess, hleft, afterAttempt]
            · rw [if_neg fun h => hleft h.2]
              simp [concluded, verdict, Wire.Response.classify, hsuccess, hleft,
                afterAttempt]
          · rw [if_neg (by simp [rejects, hstatus])]
            simp [concluded, verdict, Wire.Response.classify, hsuccess, hstatus,
              afterAttempt]

end Round

/-! ## All rounds -/

section Course

variable {config : Config} {backend : Backend σ} {call : ApiCall} {url : String}
  {retries : Nat} {turn : Turn σ} {turns : List (Turn σ)} {world later final : World σ}
  {result : Except Failure Reply}

theorem rejections_cons (hrejected : rejects turn.answer = true) :
    rejections (turn :: turns) = rejections turns + 1 := by
  simp [rejections, List.findIdx_cons, hrejected]

/-- The last turn of a call whose answer decides. -/
theorem Completed.last (hturn : turn.IsTaken config backend call url)
    (hdecides : ¬(rejects turn.answer = true ∧ 0 < retries)) :
    Completed config backend call url retries turn.start [turn]
      (verdict turn.answer) turn.finish := by
  change Completed config backend call url retries turn.start ([] ++ [turn]) _ _
  cases hrejected : rejects turn.answer with
  | true =>
      have hretries : retries = 0 :=
        Nat.eq_zero_of_not_pos fun hleft => hdecides ⟨hrejected, hleft⟩
      have hcount : rejections ([] ++ [turn]) = 1 := rejections_cons hrejected
      refine .intro .nil hturn ?_ ?_ ?_
      · rw [hcount, hretries]
        rfl
      · omega
      · exact fun _ => verdict_of_rejects hrejected
  | false =>
      have hcount : rejections ([] ++ [turn]) = 0 := by
        simp [rejections, List.findIdx_cons, hrejected]
      refine .intro .nil hturn ?_ ?_ ?_
      · rw [hcount, Nat.zero_min]
        rfl
      · exact fun _ => rfl
      · omega

theorem Course.cons (hturn : turn.IsTaken config backend call url)
    (hrejected : rejects turn.answer = true)
    (hrefreshed : (Store.refresh config).run.run backend turn.finish =
      (some (.ok ()), later))
    (hcourse : Course config backend call url retries later turns result final) :
    Course config backend call url (retries + 1) turn.start (turn :: turns) result
      final := by
  rcases hcourse with hcompleted | hinterrupted
  · cases hcompleted with
    | @intro earlier last result hearlier hlast hlength haccepted hexhausted =>
        have hrejections : rejections (turn :: earlier ++ [last]) =
            rejections (earlier ++ [last]) + 1 := rejections_cons hrejected
        refine .inl (.intro (.cons hturn hrejected hrefreshed hearlier) hlast
          ?_ ?_ ?_)
        · rw [hrejections, Nat.succ_min_succ]
          exact congrArg Nat.succ hlength
        · rw [hrejections]
          exact fun hle => haccepted (Nat.le_of_succ_le_succ hle)
        · rw [hrejections]
          exact fun hlt => hexhausted (Nat.lt_of_succ_lt_succ hlt)
  · refine .inr ?_
    cases hinterrupted with
    | token hturns hlength hfailed =>
        exact .token (.cons hturn hrejected hrefreshed hturns)
          (Nat.succ_le_succ hlength) hfailed
    | request hturns hlength htoken hfailed =>
        exact .request (.cons hturn hrejected hrefreshed hturns)
          (Nat.succ_le_succ hlength) htoken hfailed
    | refresh hearlier hlast hlastRejected hlength hfailed =>
        exact .refresh (.cons hturn hrejected hrefreshed hearlier) hlast
          hlastRejected (Nat.succ_lt_succ hlength) hfailed

/-- An answer is followed by a refresh and the course of the rest, or decides. -/
theorem afterAttempt_course (hturn : turn.IsTaken config backend call url)
    {rest : Call Reply}
    (hrest : ∀ left later, retries = left + 1 → ∃ turns result final,
      rest.run.run backend later = (some result, final) ∧
        Course config backend call url left later turns result final) :
    ∃ turns result final,
      (afterAttempt config rest (concluded retries turn.answer)).run backend
          turn.finish = (some result, final) ∧
        Course config backend call url retries turn.start turns result final := by
  rw [afterAttempt_concluded]
  by_cases hretried : rejects turn.answer = true ∧ 0 < retries
  · obtain ⟨hrejected, hleft⟩ := hretried
    obtain ⟨left, rfl⟩ := Nat.exists_eq_add_one.2 hleft
    obtain ⟨refreshed, later, hrefreshed, -⟩ :=
      (Store.refresh_within config 0 0).run backend turn.finish
    rw [if_pos ⟨hrejected, hleft⟩, Call.run_bind, Program.run_bind, hrefreshed]
    cases refreshed with
    | error failure =>
        have hinterrupted : Interrupted config backend call url (left + 1)
            turn.start ([] ++ [turn]) (.error failure) later :=
          .refresh .nil hturn hrejected hleft hrefreshed
        exact ⟨[turn], .error failure, later, rfl, .inr hinterrupted⟩
    | ok done =>
        obtain ⟨turns, result, final, hrun, hcourse⟩ := hrest left later rfl
        exact ⟨turn :: turns, result, final, hrun,
          hcourse.cons hturn hrejected hrefreshed⟩
  · rw [if_neg hretried]
    exact ⟨[turn], verdict turn.answer, turn.finish, rfl,
      .inl (Completed.last hturn hretried)⟩

/-- A round takes the course of a call if what is left of the rounds does. -/
theorem round_course (backend : Backend σ) (world : World σ) {rest : Call Reply}
    (hrest : ∀ left later, retries = left + 1 → ∃ turns result final,
      rest.run.run backend later = (some result, final) ∧
        Course config backend call url left later turns result final) :
    ∃ turns result final,
      (round config call url retries rest).run.run backend world =
          (some result, final) ∧
        Course config backend call url retries world turns result final := by
  obtain ⟨tokenResult, asked, htoken, -⟩ :=
    (Store.getToken_within config 0 0).run backend world
  rw [round_run, Program.run_bind, htoken]
  cases tokenResult with
  | error failure =>
      exact ⟨[], .error failure, asked, rfl,
        .inr (.token .nil (Nat.zero_le _) htoken)⟩
  | ok token =>
      simp only [deliver]
      cases hrequest : call.assemble config url token with
      | error failure =>
          exact ⟨[], .error failure, asked, rfl,
            .inr (.request .nil (Nat.zero_le _) htoken hrequest)⟩
      | ok request =>
          have hturn : Turn.IsTaken config backend call url
              ⟨world, token, asked, request,
                (asked.answer backend (.send request)).1,
                (asked.answer backend (.send request)).2⟩ :=
            ⟨htoken, hrequest, rfl⟩
          exact afterAttempt_course hturn hrest

theorem attempts_course (backend : Backend σ) (world : World σ)
    {retriesLeft attempted : Nat}
    (hrange : retriesLeft + attempted + 1 < UInt32.size) :
    ∃ turns result final,
      (attempts config call url retriesLeft attempted).run.run backend world =
          (some result, final) ∧
        Course config backend call url retriesLeft world turns result final := by
  induction retriesLeft generalizing attempted world with
  | zero =>
      rw [attempts_zero (by omega)]
      exact round_course backend world fun left _ hleft => by omega
  | succ retriesLeft ih =>
      rw [attempts_succ (by omega)]
      apply round_course backend world
      intro left later hleft
      cases hleft
      exact ih later (by omega)

end Course

/-! ## What the world sees of it -/

/-- The calls that a world has seen, without the grants. -/
def callsOf (world : World σ) : List Wire.Request :=
  world.sent.filter fun request => request.hasBearer

/-- The grants that a world has seen. -/
def grantsOf (world : World σ) : List Wire.Request :=
  world.sent.filter fun request => !request.hasBearer

section Seen

variable {config : Config} {backend : Backend σ} {call : ApiCall} {url : String}
  {retries : Nat} {turn : Turn σ} {turns : List (Turn σ)} {world next final : World σ}
  {result : Except Failure Reply}

theorem callsOf_run {α : Type} {holds : α → Prop} {program : Program α}
    (hprogram : program.Within (Wire.Request.price 0 1) holds 0) {ended : Option α}
    (hrun : program.run backend world = (ended, final)) :
    callsOf final = callsOf world := by
  have hsent := program.run_sent backend world
  rw [hrun] at hsent
  have hcalls : (Event.requests (program.events backend world)).filter
      (fun request => request.hasBearer) = [] := by
    rw [List.filter_eq_nil_iff]
    intro request hmember
    rw [hprogram.grants backend world request hmember]
    exact Bool.false_ne_true
  rw [callsOf, hsent, List.filter_append, hcalls, List.append_nil, callsOf]

theorem Turn.IsTaken.callsOf_finish
    (hturn : turn.IsTaken config backend call url) :
    callsOf turn.finish = callsOf turn.start ++ [turn.request] := by
  have hsent := Program.answer_sent backend turn.asked (.send turn.request)
  rw [hturn.answered] at hsent
  have hbearer := ApiCall.hasBearer_of_assemble hturn.assembled
  have hasked := callsOf_run (Store.getToken_within config 0 1) hturn.token_run
  rw [callsOf, hsent, List.filter_append, ← hasked]
  simp [callsOf, Query.request?, hbearer]

theorem Retried.callsOf_eq
    (hturns : Retried config backend call url world turns next) :
    callsOf next = callsOf world ++ turns.map (·.request) := by
  induction hturns with
  | nil => simp
  | cons hturn _ hrefreshed _ ih =>
      rw [ih, callsOf_run (Store.refresh_within config 0 1) hrefreshed, hturn.callsOf_finish,
        List.append_assoc]
      rfl

/-- The calls that are sent are those of the turns. -/
theorem Course.callsOf_eq
    (hcourse : Course config backend call url retries world turns result final) :
    callsOf final = callsOf world ++ turns.map (·.request) := by
  rcases hcourse with hcompleted | hinterrupted
  · cases hcompleted with
    | intro hearlier hlast =>
        rw [hlast.callsOf_finish, hearlier.callsOf_eq, List.map_append,
          List.append_assoc]
        rfl
  · cases hinterrupted with
    | token hturns _ hfailed =>
        rw [callsOf_run (Store.getToken_within config 0 1) hfailed, hturns.callsOf_eq]
    | request hturns _ htoken _ =>
        rw [callsOf_run (Store.getToken_within config 0 1) htoken, hturns.callsOf_eq]
    | refresh hearlier hlast _ _ hfailed =>
        rw [callsOf_run (Store.refresh_within config 0 1) hfailed, hlast.callsOf_finish,
          hearlier.callsOf_eq, List.map_append, List.append_assoc]
        rfl

theorem Course.length_le
    (hcourse : Course config backend call url retries world turns result final) :
    turns.length ≤ retries + 1 := by
  rcases hcourse with hcompleted | hinterrupted
  · cases hcompleted with
    | intro _ _ hlength => omega
  · cases hinterrupted with
    | token _ hlength => omega
    | request _ hlength => omega
    | refresh _ _ _ hlength =>
        rw [List.length_append, List.length_singleton]
        omega

theorem sum_price_grants (requests : List Wire.Request) :
    (requests.map (Wire.Request.price 1 0)).sum =
      (requests.filter fun request => !request.hasBearer).length := by
  induction requests with
  | nil => rfl
  | cons request rest ih =>
      cases hbearer : request.hasBearer <;>
        simp [Wire.Request.price, hbearer, ih, Nat.add_comm]

end Seen

end Delivery

/-- The retry law: what is executed takes the course of a call, and the requests
that it may send are counted by the attempts that it is allowed. -/
theorem Delivery.execute_retries {σ : Type} (config : Config)
    (backend : Backend σ) (world : World σ) (call : ApiCall) (url : String)
    (htarget : call.repeatableTarget config = .ok url)
    (hrange : (call.retries config).toNat + 1 < UInt32.size) :
    let retries := (call.retries config).toNat
    ∃ turns result final,
      (execute config call).run.run backend world = (some result, final) ∧
        Course config backend call url retries world turns result final ∧
        callsOf final = callsOf world ++ turns.map (·.request) ∧
        turns.length ≤ retries + 1 ∧
        (grantsOf final).length ≤ (grantsOf world).length + (2 * retries + 1) := by
  intro retries
  have hexecute : execute config call = attempts config call url retries 0 := by
    unfold execute
    rw [htarget]
    rfl
  obtain ⟨turns, result, final, hrun, hcourse⟩ :
      ∃ turns result final,
        (attempts config call url retries 0).run.run backend world =
            (some result, final) ∧
          Course config backend call url retries world turns result final :=
    attempts_course backend world hrange
  have hwithin : (attempts config call url retries 0).run.Within
      (Wire.Request.price 1 0) (Call.Settled fun _ => True)
      (1 + 0 + retries * (2 * 1 + 0)) := attempts_within call url hrange
  have hgrants := hwithin.requests backend world
  have hsent := (attempts config call url retries 0).run.run_sent backend world
  rw [hrun] at hsent
  refine ⟨turns, result, final, by rw [hexecute, hrun], hcourse,
    hcourse.callsOf_eq, hcourse.length_le, ?_⟩
  rw [sum_price_grants] at hgrants
  rw [grantsOf, hsent, List.filter_append, List.length_append, grantsOf]
  omega

/-- A call with two retries whose token is rejected twice, the second time after a
refresh that brings another one. -/
theorem Delivery.execute_retries_expired :
    let config : Config :=
      { apiUrl := "https://api.test", login := ⟨"user", "secret", "id", "key"⟩ }
    let script : Rehearsal.Script := ⟨[
      ("app", [.token (some "first") (some "again") (some (.after 3600000))]),
      ("refresh", [.token (some "second") none (some (.after 1000)), .plain 500 ""]),
      ("*", [.plain 401 "expired"])]⟩
    let world : World Rehearsal.Stage := { outside := ⟨.epoch, []⟩ }
    let call := (ApiCall.get "items").withMaxRetries 2
    call.repeatableTarget config = .ok "https://api.test/items" ∧
      (call.retries config).toNat + 1 < UInt32.size ∧
        ∃ turns result final,
          (execute config call).run.run script.backend world =
              (some result, final) ∧
            Course config script.backend call "https://api.test/items"
              (call.retries config).toNat world turns result final ∧
            callsOf final = callsOf world ++ turns.map (·.request) ∧
            turns.length ≤ (call.retries config).toNat + 1 ∧
            (grantsOf final).length ≤
              (grantsOf world).length + (2 * (call.retries config).toNat + 1) := by
  intro config script world call
  have htarget : call.repeatableTarget config = .ok "https://api.test/items" := by
    simp only [call, config]
    rfl
  have hrange : (call.retries config).toNat + 1 < UInt32.size := by decide
  have hretries := execute_retries config script.backend world call
    "https://api.test/items" htarget hrange
  clear_value config script world call
  exact ⟨htarget, hrange, hretries⟩

end BearerClient
