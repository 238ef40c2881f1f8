import BearerClient.Proofs.Delivery.Causes
import BearerClient.Proofs.Store.Announced

/-!
# The counters of a call

A call that is executed counts its attempts up and the retries that it has left down.  Both are
numbers of 32 bits, and a call breaks off where one of them leaves its range.  The retries never do:
an answer may be retried only while there are retries left.  Retries left and attempts made always
add up to the retries that the call was allowed, so the attempts stay in range as well, unless the
call was allowed the largest number of retries: then there is one attempt more than can be numbered.

The attempts of a call that is sent are not counted, and its retries are counted down alike.
-/

namespace BearerClient

namespace Delivery

variable {σ : Type}

/-- Where a call stands before its next attempt. -/
structure Standing (σ : Type) where
  url : String
  retriesLeft : Nat
  attempted : Nat
  world : World σ

section Definitions

variable (config : Config) (backend : Backend σ) (call : ApiCall)

/-- What comes of the attempts from here on. -/
def Standing.rest (standing : Standing σ) : Option (Except Failure Reply) × World σ :=
  (attempts config call standing.url standing.retriesLeft standing.attempted).run.run backend
    standing.world

/-- The next attempt has a number, its answer may be retried, and the refresh after it succeeds; the
call goes on with the counters moved. -/
inductive Standing.Resumes : Standing σ → Standing σ → Prop where
  | intro {standing : Standing σ} {details : ErrorDetails} {asked later : World σ}
      (hnumbered : standing.attempted + 1 < UInt32.size)
      (hrejected : (attempt config call standing.url standing.retriesLeft).run.run backend
        standing.world = (some (.ok (.retryable details)), asked))
      (hrefreshed : (Store.refresh config).run.run backend asked = (some (.ok ()), later)) :
      Resumes standing
        ⟨standing.url, standing.retriesLeft - 1, standing.attempted + 1, later⟩

/-- A call that is executed comes to stand here. -/
inductive Reaches (world : World σ) : Standing σ → Prop where
  | start {url : String} (htarget : call.repeatableTarget config = .ok url) :
      Reaches world ⟨url, (call.retries config).toNat, 0, world⟩
  | again {standing next : Standing σ} (hreaches : Reaches world standing)
      (hresumes : standing.Resumes config backend call next) : Reaches world next

/-- What the counters of a call are like where it stands. -/
structure Standing.Counts (world : World σ) (standing : Standing σ) : Prop where
  /-- each attempt so far has taken one of the retries -/
  balanced : standing.retriesLeft + standing.attempted = (call.retries config).toNat
  /-- the next attempt has a number, unless it comes after the largest number of retries -/
  numbered : standing.attempted + 1 < UInt32.size ∨
    (call.retries config).toNat + 1 = UInt32.size ∧ standing.retriesLeft = 0
  /-- where the call goes on there is a retry to be taken -/
  spends : ∀ next, standing.Resumes config backend call next →
    next.retriesLeft + 1 = standing.retriesLeft
  /-- what comes of the attempts from here on is what comes of the call -/
  rest_eq : (execute config call).run.run backend world = standing.rest config backend call

end Definitions

variable {config : Config} {backend : Backend σ} {call : ApiCall} {world : World σ}
  {standing next : Standing σ}

/-! ## One attempt -/

theorem attempt_concludes (config : Config) (backend : Backend σ) (call : ApiCall)
    (standing : Standing σ) :
    ∃ outcome asked,
      (attempt config call standing.url standing.retriesLeft).run.run backend standing.world =
          (some outcome, asked) ∧
        Call.Settled (Concludes standing.retriesLeft) outcome := by
  have hwithin : (attempt config call standing.url standing.retriesLeft).run.Within
      (Wire.Request.price 0 0) (Call.Settled (Concludes standing.retriesLeft)) 0 :=
    attempt_within call standing.url standing.retriesLeft
  exact hwithin.run backend standing.world

/-- Only with retries left an answer may be retried. -/
theorem Standing.Resumes.spends (hresumes : standing.Resumes config backend call next) :
    next.retriesLeft + 1 = standing.retriesLeft := by
  cases hresumes with
  | intro hnumbered hrejected hrefreshed =>
      obtain ⟨outcome, asked, hrun, hsettled⟩ := attempt_concludes config backend call standing
      rw [hrejected] at hrun
      cases hrun
      cases hsettled with
      | ok hleft => exact Nat.sub_add_cancel hleft

theorem Standing.Resumes.balanced (hresumes : standing.Resumes config backend call next) :
    next.retriesLeft + next.attempted = standing.retriesLeft + standing.attempted := by
  have hspends := hresumes.spends
  cases hresumes
  dsimp only at hspends ⊢
  omega

/-- An attempt with a number is a round, which goes on with the counters moved. -/
theorem Standing.exists_round (config : Config) (call : ApiCall)
    (hnumbered : standing.attempted + 1 < UInt32.size) :
    ∃ rest, attempts config call standing.url standing.retriesLeft standing.attempted =
        round config call standing.url standing.retriesLeft rest ∧
      (0 < standing.retriesLeft → rest = attempts config call standing.url
        (standing.retriesLeft - 1) (standing.attempted + 1)) := by
  obtain ⟨url, retriesLeft, attempted, world⟩ := standing
  have hrange : attempted + 1 ≠ UInt32.size := Nat.ne_of_lt hnumbered
  cases retriesLeft with
  | zero => exact ⟨_, attempts_zero hrange, fun hleft => nomatch hleft⟩
  | succ retriesLeft => exact ⟨_, attempts_succ hrange, fun _ => rfl⟩

/-- A round is an attempt and what follows its end. -/
theorem round_run_run {url : String} {retriesLeft : Nat} {rest : Call Reply}
    {outcome : Except Failure Outcome} {asked : World σ}
    (hattempt : (attempt config call url retriesLeft).run.run backend world =
      (some outcome, asked)) :
    (round config call url retriesLeft rest).run.run backend world =
      (afterAttempt config rest outcome).run backend asked := by
  have hround : (round config call url retriesLeft rest).run =
      (attempt config call url retriesLeft).run.bind (afterAttempt config rest) := by
    rw [round, Call.run_bind]
    apply Program.bind_congr
    rintro (failure | reply | details | failure) <;> rfl
  rw [hround, Program.run_bind, hattempt]

/-- Nothing is lost where a call goes on. -/
theorem Standing.Resumes.rest_eq (hresumes : standing.Resumes config backend call next) :
    standing.rest config backend call = next.rest config backend call := by
  have hspends := hresumes.spends
  cases hresumes with
  | intro hnumbered hrejected hrefreshed =>
      obtain ⟨rest, hround, hrest⟩ := Standing.exists_round config call hnumbered
      rw [Standing.rest, hround, round_run_run hrejected, afterAttempt, Call.run_bind,
        Program.run_bind, hrefreshed, hrest (by omega)]
      rfl

/-- An attempt with a number is the last one, or the call goes on after it. -/
theorem Standing.ends_or_resumes (config : Config) (backend : Backend σ) (call : ApiCall)
    (hnumbered : standing.attempted + 1 < UInt32.size) :
    (∃ result final, standing.rest config backend call = (some result, final)) ∨
      ∃ next, standing.Resumes config backend call next := by
  obtain ⟨rest, hround, -⟩ := Standing.exists_round config call hnumbered
  obtain ⟨outcome, asked, hrun, -⟩ := attempt_concludes config backend call standing
  rw [Standing.rest, hround, round_run_run hrun]
  rcases outcome with failure | reply | details | failure
  · exact .inl ⟨_, asked, rfl⟩
  · exact .inl ⟨_, asked, rfl⟩
  · obtain ⟨refreshed, later, hrefreshed, -⟩ :=
      (Store.refresh_within config 0 0).run backend asked
    cases refreshed with
    | ok _ => exact .inr ⟨_, .intro hnumbered hrun hrefreshed⟩
    | error failure =>
        refine .inl ⟨.error failure, later, ?_⟩
        rw [afterAttempt, Call.run_bind, Program.run_bind, hrefreshed]
        rfl
  · exact .inl ⟨_, asked, rfl⟩

/-- There is no attempt without a number. -/
theorem Standing.rest_of_unnumbered (hunnumbered : standing.attempted + 1 = UInt32.size) :
    standing.rest config backend call = (none, standing.world) := by
  rw [Standing.rest, attempts_out_of_range hunnumbered]
  rfl

/-! ## All attempts -/

theorem Reaches.balanced (hreaches : Reaches config backend call world standing) :
    standing.retriesLeft + standing.attempted = (call.retries config).toNat := by
  induction hreaches with
  | start htarget => rfl
  | again hreaches hresumes ih => rw [hresumes.balanced, ih]

theorem Reaches.rest_eq (hreaches : Reaches config backend call world standing) :
    (execute config call).run.run backend world = standing.rest config backend call := by
  induction hreaches with
  | start htarget =>
      unfold execute
      rw [htarget]
      rfl
  | again hreaches hresumes ih => rw [ih, hresumes.rest_eq]

theorem Reaches.counts (hreaches : Reaches config backend call world standing) :
    standing.Counts config backend call world := by
  have hbalanced := hreaches.balanced
  have hretries := (call.retries config).toNat_lt_size
  exact {
    balanced := hbalanced
    numbered := by omega
    spends := fun next hresumes => hresumes.spends
    rest_eq := hreaches.rest_eq }

/-- A call that breaks off has come to stand where the next attempt has no number. -/
theorem Reaches.unnumbered_of_none (hreaches : Reaches config backend call world standing)
    (hnone : (standing.rest config backend call).1 = none) :
    ∃ last, Reaches config backend call world last ∧ last.attempted + 1 = UInt32.size := by
  -- There are fewer retries left from one attempt to the next.
  induction hleft : standing.retriesLeft using Nat.strong_induction_on generalizing standing with
  | h left ih =>
      by_cases hunnumbered : standing.attempted + 1 = UInt32.size
      · exact ⟨standing, hreaches, hunnumbered⟩
      have hnumbered : standing.attempted + 1 < UInt32.size := by
        have hnumber := hreaches.counts.numbered
        have hbalanced := hreaches.balanced
        omega
      rcases Standing.ends_or_resumes config backend call hnumbered with
        ⟨result, final, hends⟩ | ⟨next, hresumes⟩
      · rw [hends] at hnone
        cases hnone
      · have hspends := hresumes.spends
        rw [hresumes.rest_eq] at hnone
        exact ih next.retriesLeft (by omega) (hreaches.again hresumes) hnone rfl

/-- A call breaks off exactly if it is allowed as many retries as can be and takes them all. -/
theorem execute_none_iff (config : Config) (backend : Backend σ) (world : World σ)
    (call : ApiCall) :
    ((execute config call).run.run backend world).1 = none ↔
      (call.retries config).toNat + 1 = UInt32.size ∧
        ∃ url later, Reaches config backend call world
          ⟨url, 0, (call.retries config).toNat, later⟩ := by
  constructor
  · intro hnone
    cases htarget : call.repeatableTarget config with
    | error failure =>
        unfold execute at hnone
        rw [htarget] at hnone
        cases hnone
    | ok url =>
        have hstart : Reaches config backend call world _ := .start htarget
        rw [hstart.rest_eq] at hnone
        obtain ⟨⟨url, retriesLeft, attempted, later⟩, hlast, hunnumbered⟩ :=
          hstart.unnumbered_of_none hnone
        have hbalanced := hlast.balanced
        have hnumbered := hlast.counts.numbered
        dsimp only at hunnumbered hbalanced hnumbered
        obtain rfl : retriesLeft = 0 := by omega
        obtain rfl : attempted = (call.retries config).toNat := by omega
        exact ⟨hunnumbered, url, later, hlast⟩
  · rintro ⟨hlargest, url, later, hlast⟩
    rw [hlast.rest_eq, Standing.rest_of_unnumbered hlargest]

end Delivery

/-! ## Dispatches -/

namespace Client

/-- Dispatches come to an end, whatever number of them is left. -/
theorem dispatches_within (config : Config) (call : ApiCall) {remaining : Nat}
    (hremaining : remaining < UInt32.size) :
    (dispatches config call remaining).run.Within (Wire.Request.price 0 0)
      (Call.Settled fun _ => True) 0 := by
  cases htarget : call.target config with
  | error failure =>
      have hsettled := call.target_settled config
      rw [htarget] at hsettled
      rw [dispatches_refused htarget]
      exact Program.within_done.2 (.error hsettled.final)
  | ok url =>
      induction remaining with
      | zero =>
          have hnone : 0 < 0 → ∃ budget, 0 + budget ≤ 0 ∧
              (Call.abort : Call Reply).run.Within (Wire.Request.price 0 0)
                (Call.Settled fun _ => True) budget :=
            fun hleft => absurd hleft (Nat.lt_irrefl 0)
          rw [dispatches_zero, round_eq htarget hremaining]
          exact Delivery.round_within call url 0 hnone
      | succ remaining ih =>
          rw [dispatches_succ, round_eq htarget hremaining]
          exact Delivery.round_within call url _ fun _ => ⟨0, Nat.le_refl 0, ih (by omega)⟩

theorem send_within (config : Config) (call : ApiCall) :
    (send config call).run.Within (Wire.Request.price 0 0) (Call.Settled fun _ => True) 0 := by
  unfold send
  split
  · exact Delivery.dispatch_within rfl
  · exact dispatches_within config _ (UInt32.toNat_lt_size _)

end Client

/-- Only with retries left a dispatch asks for another one. -/
theorem Delivery.retries_of_dispatch {σ : Type} {config : Config} {call : ApiCall}
    {backend : Backend σ} {world later : World σ} {status : UInt16}
    (hrun : (dispatch config call).run.run backend world =
      (some (.error (.retryNeeded status)), later)) : 0 < call.retries config := by
  have hcourse := Program.course_run backend (dispatch config call).run world
  rw [hrun] at hcourse
  exact UInt32.lt_iff_toNat_lt.2 (dispatch_retryNeeded.1 hcourse).2.retries

/-! ## Rejected again and again -/

namespace Store

variable {σ : Type} {config : Config} {backend : Backend σ} {world : World σ}

/-- A token that is held and not due is handed out for a look at the clock. -/
theorem getToken_run_held (hheld : world.credential.isBlank = false)
    (hdue : world.credential.isExpired (backend.now world.outside).1 config.refreshMargin =
      false) :
    (getToken config).run.run backend world = (some (.ok world.credential.token),
      { world with outside := (backend.now world.outside).2 }) := by
  unfold getToken
  rw [Call.run_run_locked, Call.run_bind, Program.run_bind, exchangeForToken_run, decision_run,
    hheld, hdue]
  rfl

/-- A credential that is fresh is not renewed, after a look at the clock. -/
theorem refresh_run_fresh (hheld : world.credential.isBlank = false)
    (hfresh : world.credential.isFresh (backend.now world.outside).1 config.freshBuffer = true) :
    (refresh config).run.run backend world = (some (.ok ()),
      { world with outside := (backend.now world.outside).2 }) := by
  unfold refresh
  rw [Call.run_run_locked, Call.run_bind, Program.run_bind, exchangeForRefresh_run, decision_run,
    hheld, hfresh]
  rfl

end Store

namespace Delivery

variable {σ : Type} {config : Config} {backend : Backend σ} {call : ApiCall} {url : String}
  {retriesLeft attempted : Nat}

/-- A rejected turn is retried if there are retries left. -/
theorem Turn.IsTaken.resumes {turn : Turn σ} {later : World σ}
    (hturn : turn.IsTaken config backend call url) (hrejected : rejects turn.answer = true)
    (hrefreshed : (Store.refresh config).run.run backend turn.finish = (some (.ok ()), later))
    (hleft : 0 < retriesLeft) (hnumbered : attempted + 1 < UInt32.size) :
    Standing.Resumes config backend call ⟨url, retriesLeft, attempted, turn.start⟩
      ⟨url, retriesLeft - 1, attempted + 1, later⟩ := by
  obtain ⟨response, body, hanswer, hbody, -⟩ := verdict_of_rejects hrejected
  have hstatus : response.status = 401 := by
    rw [hanswer, rejects, Bool.and_eq_true, beq_iff_eq] at hrejected
    exact hrejected.1
  have hconcluded : concluded retriesLeft turn.answer =
      .ok (.retryable (response.details body)) := by
    rw [hanswer, concluded, Wire.Response.classify, hbody, hstatus]
    simp [Wire.Response.isSuccess, hleft]
  have hattempt : (attempt config call url retriesLeft).run.run backend turn.start =
      (some (.ok (.retryable (response.details body))), turn.finish) := by
    rw [attempt_run, Program.run_bind, hturn.token_run]
    simp only [deliver, hturn.assembled, Program.run, hturn.answered, hconcluded]
  exact .intro hnumbered hattempt hrefreshed

/-- In the worlds of some kind a call is rejected and the refresh after it succeeds, which makes
another world of that kind. -/
def Rejecting (config : Config) (backend : Backend σ) (call : ApiCall) (url : String)
    (kind : World σ → Prop) : Prop :=
  ∀ world, kind world → ∃ (turn : Turn σ) (later : World σ), turn.start = world ∧
    turn.IsTaken config backend call url ∧ rejects turn.answer = true ∧
    (Store.refresh config).run.run backend turn.finish = (some (.ok ()), later) ∧ kind later

/-- A call that is rejected again and again takes all of its retries. -/
theorem Rejecting.reaches {kind : World σ → Prop} {world : World σ}
    (hrejecting : Rejecting config backend call url kind)
    (htarget : call.repeatableTarget config = .ok url) (hworld : kind world) {taken : Nat}
    (htaken : taken ≤ (call.retries config).toNat) :
    ∃ later, kind later ∧ Reaches config backend call world
      ⟨url, (call.retries config).toNat - taken, taken, later⟩ := by
  induction taken with
  | zero => exact ⟨world, hworld, .start htarget⟩
  | succ taken ih =>
      obtain ⟨_, hbefore, hreaches⟩ := ih (by omega)
      obtain ⟨turn, later, rfl, hturn, hrejected, hrefreshed, hlater⟩ := hrejecting _ hbefore
      have hretries := (call.retries config).toNat_lt_size
      exact ⟨later, hlater, hreaches.again
        (hturn.resumes hrejected hrefreshed (by omega) (by omega))⟩

/-- A script that rejects a token which is held, not due and fresh. -/
theorem rejecting_of_script {script : Rehearsal.Script} {credential : Credential} {now : Instant}
    {request : Wire.Request} (hheld : credential.isBlank = false)
    (hdue : credential.isExpired now config.refreshMargin = false)
    (hfresh : credential.isFresh now config.freshBuffer = true)
    (hrequest : call.assemble config url credential.token = .ok request)
    (hrejects : ∀ used number, rejects
      ((script.line (script.listFor request) used).answer now number) = true) :
    Rejecting config script.backend call url fun world =>
      world.outside.now = now ∧ world.credential = credential := by
  rintro world ⟨rfl, rfl⟩
  -- Neither look at the clock changes the stage.
  have htoken : (Store.getToken config).run.run script.backend world =
      (some (.ok world.credential.token), world) :=
    Store.getToken_run_held hheld hdue
  have hrefreshed (asked : World Rehearsal.Stage) (hnow : asked.outside.now = world.outside.now)
      (hstored : asked.credential = world.credential) :
      (Store.refresh config).run.run script.backend asked = (some (.ok ()), asked) := by
    rw [← hstored] at hheld hfresh
    rw [← hnow] at hfresh
    exact Store.refresh_run_fresh hheld hfresh
  let answered := world.answer script.backend (.send request)
  exact ⟨⟨world, world.credential.token, world, request, answered.1, answered.2⟩, answered.2,
    rfl, ⟨htoken, hrequest, rfl⟩, hrejects _ _, hrefreshed answered.2 rfl rfl, rfl, rfl⟩

/-- A call whose token is rejected as long as it is used takes all of its retries. -/
theorem reaches_expired (retries : UInt32) :
    let config : Config :=
      { apiUrl := "https://api.test", login := ⟨"user", "secret", "id", "key"⟩ }
    let script : Rehearsal.Script := ⟨[
      ("app", [.token (some "first") none (some (.after 3600000))]),
      ("*", [.plain 401 "expired"])]⟩
    let held : World Rehearsal.Stage :=
      ((Store.getToken config).run.run script.backend { outside := ⟨.epoch, []⟩ }).2
    let call := (ApiCall.get "items").withMaxRetries retries
    ∃ later, Reaches config script.backend call held
      ⟨"https://api.test/items", 0, retries.toNat, later⟩ := by
  intro config script held call
  let credential : Credential :=
    ⟨"first", some (Instant.clamp 3600000000000), none, some .epoch⟩
  have htarget : (ApiCall.get "items").repeatableTarget config =
      .ok "https://api.test/items" := by
    simp only [config]
    rfl
  have hworld : held.outside.now = .epoch ∧ held.credential = credential := by
    decide +kernel +zetaReduce
  have hheld : credential.isBlank = false := by decide +kernel +zetaReduce
  have hdue : credential.isExpired .epoch config.refreshMargin = false := by
    decide +kernel +zetaReduce
  have hfresh : credential.isFresh .epoch config.freshBuffer = true := by
    decide +kernel +zetaReduce
  have hlist : (((ApiCall.get "items").assemble config "https://api.test/items"
      credential.token).map script.listFor).toOption = some "*" := by
    decide +kernel +zetaReduce
  have hrejects (used number : Nat) :
      rejects ((script.line "*" used).answer .epoch number) = true := by
    cases used <;> rfl
  clear_value config script held credential
  cases hrequest : (ApiCall.get "items").assemble config "https://api.test/items"
      credential.token with
  | error failure =>
      rw [hrequest] at hlist
      cases hlist
  | ok request =>
      rw [hrequest] at hlist
      have hanswers (used number : Nat) : rejects
          ((script.line (script.listFor request) used).answer .epoch number) = true := by
        rw [Option.some.inj hlist]
        exact hrejects used number
      have hrejecting : Rejecting config script.backend call "https://api.test/items" _ :=
        rejecting_of_script hheld hdue hfresh hrequest hanswers
      have hretries : (call.retries config).toNat = retries.toNat := rfl
      obtain ⟨later, -, hreaches⟩ := hrejecting.reaches htarget hworld (Nat.le_refl _)
      rw [Nat.sub_self, hretries] at hreaches
      exact ⟨later, hreaches⟩

end Delivery

/-- **The counters of a call stay in range** but for one number of retries, the largest that there
is: a call that takes all of these breaks off before its last attempt, which has no number any more.
Whatever else happens, no retry is taken where none is left, neither by a call that is executed nor
by one that is sent. -/
theorem Client.counters_suffice {σ : Type} (config : Config) (backend : Backend σ)
    (world : World σ) (call : ApiCall) :
    (∀ standing, Delivery.Reaches config backend call world standing →
        standing.Counts config backend call world) ∧
      (((Delivery.execute config call).run.run backend world).1 = none ↔
        (call.retries config).toNat + 1 = UInt32.size ∧
          ∃ url later, Delivery.Reaches config backend call world
            ⟨url, 0, (call.retries config).toNat, later⟩) ∧
      (∃ result final, (send config call).run.run backend world = (some result, final)) ∧
      ∀ (remaining : UInt32) (start later : World σ) (status : UInt16),
        (Delivery.dispatch config (call.withMaxRetries remaining)).run.run backend start =
            (some (.error (.retryNeeded status)), later) →
          0 < remaining := by
  refine ⟨fun _ hreaches => hreaches.counts, Delivery.execute_none_iff config backend world call,
    ?_, fun _ _ _ _ hrun => Delivery.retries_of_dispatch hrun⟩
  obtain ⟨result, final, hrun, -⟩ := (send_within config call).run backend world
  exact ⟨result, final, hrun⟩

/-- A call that takes the only retry it is allowed, and a dispatch of it that asks for another. -/
theorem Client.counters_suffice_expired :
    let config : Config :=
      { apiUrl := "https://api.test", login := ⟨"user", "secret", "id", "key"⟩ }
    let script : Rehearsal.Script := ⟨[
      ("app", [.token (some "first") none (some (.after 3600000))]),
      ("*", [.plain 401 "expired"])]⟩
    let held : World Rehearsal.Stage :=
      ((Store.getToken config).run.run script.backend { outside := ⟨.epoch, []⟩ }).2
    let call := (ApiCall.get "items").withMaxRetries 1
    (∃ standing : Delivery.Standing Rehearsal.Stage,
      Delivery.Reaches config script.backend call held standing ∧
        standing.attempted = 1 ∧ standing.Counts config script.backend call held) ∧
      ∃ (remaining : UInt32) (later : World Rehearsal.Stage),
        (Delivery.dispatch config (call.withMaxRetries remaining)).run.run script.backend held =
            (some (.error (.retryNeeded 401)), later) ∧
          0 < remaining := by
  intro config script held call
  have hexpired : ∃ later, Delivery.Reaches config script.backend call held
      ⟨"https://api.test/items", 0, UInt32.toNat 1, later⟩ := Delivery.reaches_expired 1
  have hdispatched : ((Delivery.dispatch config (call.withMaxRetries 1)).run.run
      script.backend held).1 = some (.error (.retryNeeded 401)) := by
    decide +kernel +zetaReduce
  clear_value config script held call
  have hcounters := counters_suffice config script.backend held call
  obtain ⟨later, hreaches⟩ := hexpired
  have hrun : (Delivery.dispatch config (call.withMaxRetries 1)).run.run script.backend held =
      (some (.error (.retryNeeded 401)), _) := Prod.ext hdispatched rfl
  exact ⟨⟨_, hreaches, rfl, hcounters.1 _ hreaches⟩, 1, _, hrun, hcounters.2.2.2 1 held _ _ hrun⟩

/-- The largest number of retries, all of which are taken: the attempt after the last of them has no
number. -/
theorem Client.counters_suffice_largest :
    let config : Config :=
      { apiUrl := "https://api.test", login := ⟨"user", "secret", "id", "key"⟩ }
    let script : Rehearsal.Script := ⟨[
      ("app", [.token (some "first") none (some (.after 3600000))]),
      ("*", [.plain 401 "expired"])]⟩
    let held : World Rehearsal.Stage :=
      ((Store.getToken config).run.run script.backend { outside := ⟨.epoch, []⟩ }).2
    let call := (ApiCall.get "items").withMaxRetries 4294967295
    config.validate = .ok () ∧
      ∃ standing : Delivery.Standing Rehearsal.Stage,
        Delivery.Reaches config script.backend call held standing ∧
          standing.attempted + 1 = UInt32.size ∧
          (Delivery.execute config call).run.run script.backend held = (none, standing.world) := by
  intro config script held call
  have hvalid : config.validate = .ok () := by decide +kernel +zetaReduce
  have hexpired : ∃ later, Delivery.Reaches config script.backend call held
      ⟨"https://api.test/items", 0, UInt32.toNat 4294967295, later⟩ :=
    Delivery.reaches_expired 4294967295
  have hlargest : UInt32.toNat 4294967295 + 1 = UInt32.size := by decide
  clear_value config script held call
  obtain ⟨later, hreaches⟩ := hexpired
  refine ⟨hvalid, _, hreaches, hlargest, ?_⟩
  rw [hreaches.rest_eq]
  exact Delivery.Standing.rest_of_unnumbered hlargest

end BearerClient
