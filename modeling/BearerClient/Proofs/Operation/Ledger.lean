import BearerClient.Proofs.Credential.Complete
import BearerClient.Proofs.Operation.Carries
import BearerClient.Proofs.Operation.Session
import BearerClient.Rehearsal.Script

/-!
# The ledger

The ledger says what ought to be stored.  It is kept from what can be seen from
outside: which operation is under way, what it sends, what it is answered and
what the clock shows.  A credential is issued when the clock is read after a
good answer to a token request, and a revocation clears what is held; nothing
else is entered.

The store follows the ledger through every session.  Whatever is asked, other
than to write a credential, is asked while the credential of the ledger is
stored, and each request carries the tokens of that credential.
-/

namespace BearerClient

/-- What ought to be stored. -/
structure Ledger where
  held : Credential := .blank
  /-- a token answer after which the clock has not been read yet -/
  due : Option TokenAnswer := none

namespace Ledger

/-- The token that the answer to a request brings, if the request asks for one
and the answer is good. -/
def tokenAnswer? (config : Config) (request : Wire.Request)
    (answer : Except TransportFault Wire.Response) : Option TokenAnswer :=
  match config.endpoint? request with
  | none | some .revoke => none
  | some endpoint => (Store.received endpoint answer).toOption

/-- The credential that is issued when the clock is read after a token answer. -/
def issue? (ledger : Ledger) : Event → Option Credential
  | ⟨_, .now, now⟩ =>
    ledger.due.bind fun answer => (Credential.ofAnswer answer now).toOption
  | _ => none

/-- A revocation counts from the answer to its request, from its look at the
credential where there is no refresh token, and in any case from its end. -/
def revokes (ledger : Ledger) : Operation → Query → Bool
  | .revoke, .send _ | .revoke, .unlock => true
  | .revoke, .credential => ledger.held.refreshToken.isNone
  | _, _ => false

/-- What is due after an event. -/
def dueAfter (config : Config) : Event → Option TokenAnswer
  | ⟨_, .send request, answer⟩ => tokenAnswer? config request answer
  | _ => none

/-- The ledger after one more event. -/
def enter (config : Config) (operation : Operation) (ledger : Ledger)
    (event : Event) : Ledger where
  held := if ledger.revokes operation event.query then .blank
    else (ledger.issue? event).getD ledger.held
  due := dueAfter config event

/-- The ledger of a session, from its log. -/
def ofLog (config : Config) (log : List (Operation × Event)) : Ledger :=
  log.foldl (fun ledger entry => ledger.enter config entry.1 entry.2) {}

/-- The credentials that are issued in some part of a session. -/
def issues (config : Config) : Ledger → List (Operation × Event) → List Credential
  | _, [] => []
  | ledger, (operation, event) :: rest =>
    (ledger.issue? event).toList ++
      (ledger.enter config operation event).issues config rest

variable {config : Config} {operation : Operation} {ledger : Ledger}

theorem ofLog_append (first second : List (Operation × Event)) :
    ofLog config (first ++ second) =
      second.foldl (fun ledger entry => ledger.enter config entry.1 entry.2)
        (ofLog config first) :=
  List.foldl_append

/-- The ledger in the course of an operation. -/
def during (config : Config) (operation : Operation)
    (past : List (Operation × Event)) (log : List Event) : Ledger :=
  ofLog config (past ++ log.map (operation, ·))

@[simp] theorem during_nil (past : List (Operation × Event)) :
    during config operation past [] = ofLog config past := by
  simp [during]

@[simp] theorem during_append_singleton (past : List (Operation × Event))
    (log : List Event) (event : Event) :
    during config operation past (log ++ [event]) =
      (during config operation past log).enter config operation event := by
  simp [during, ofLog_append]

theorem revokes_of_ne (hrevoke : operation ≠ .revoke) (query : Query) :
    ledger.revokes operation query = false := by
  cases operation <;> first | rfl | exact absurd rfl hrevoke

theorem enter_send (hrevoke : operation ≠ .revoke) (stored : Credential)
    (request : Wire.Request) (answer : Except TransportFault Wire.Response) :
    ledger.enter config operation ⟨stored, .send request, answer⟩ =
      ⟨ledger.held, tokenAnswer? config request answer⟩ := by
  simp [enter, revokes_of_ne hrevoke, issue?, dueAfter]

theorem enter_now (hrevoke : operation ≠ .revoke) (held stored : Credential)
    (answer : TokenAnswer) (now : Instant) :
    enter config operation ⟨held, some answer⟩ ⟨stored, .now, now⟩ =
      ⟨(Credential.ofAnswer answer now).toOption.getD held, none⟩ := by
  simp [enter, revokes_of_ne hrevoke, issue?, dueAfter]

theorem enter_replace (hrevoke : operation ≠ .revoke)
    (stored credential : Credential) (answer : Unit) :
    ledger.enter config operation ⟨stored, .replace credential, answer⟩ =
      ⟨ledger.held, none⟩ := by
  simp [enter, revokes_of_ne hrevoke, issue?, dueAfter]

/-- A question that changes nothing does not change the ledger either, unless
it belongs to a revocation or a token answer is due. -/
theorem enter_idle {event : Event} (hdue : ledger.due = none)
    (hidle : event.query.IsIdle)
    (hrevokes : ledger.revokes operation event.query = false) :
    ledger.enter config operation event = ledger := by
  obtain ⟨stored, query, answer⟩ := event
  obtain ⟨held, due⟩ := ledger
  cases hdue
  simp only [enter, hrevokes]
  cases query <;>
    first | rfl | exact hidle.elim

theorem enter_revoking {event : Event}
    (hrevokes : ledger.revokes operation event.query = true)
    (hdue : dueAfter config event = none) :
    ledger.enter config operation event = {} := by
  simp only [enter, hrevokes, hdue]
  rfl

/-! ## The store beside the ledger -/

variable {past : List (Operation × Event)} {log : List Event} {stored : Credential}

/-- What may be asked: all but writing is asked while the credential of the
ledger is stored, and requests carry its tokens. -/
def Follows (config : Config) (ledger : Ledger) (stored : Credential)
    (query : Query) : Prop :=
  ((∀ credential, query ≠ .replace credential) → stored = ledger.held) ∧
    ∀ request, query = .send request → request.Carries config stored

/-- The store is in line with the ledger.  Only a client whose user agent is a
header value has ever obtained a credential. -/
structure Agrees (config : Config) (ledger : Ledger) (stored : Credential) :
    Prop where
  held : stored = ledger.held
  due : ledger.due = none
  userAgent : stored = .blank ∨
    ∃ endpoint grant request, config.grantRequest endpoint grant = .ok request

theorem Agrees.follows (hagrees : Agrees config ledger stored) {query : Query}
    (hsend : ∀ request, query ≠ .send request) :
    Follows config ledger stored query :=
  ⟨fun _ => hagrees.held, fun request hquery => absurd hquery (hsend request)⟩

theorem Agrees.idle (hagrees : Agrees config ledger stored) {event : Event}
    (hidle : event.query.IsIdle)
    (hrevokes : ledger.revokes operation event.query = false) :
    Agrees config (ledger.enter config operation event) stored := by
  rw [enter_idle hagrees.due hidle hrevokes]
  exact hagrees

/-- An answer to an exchange makes the token due that it brings. -/
theorem tokenAnswer?_exchange {exchange : Exchange} {request : Wire.Request}
    (hrequest : config.grantRequest exchange.endpoint
      (exchange.grant config.login) = .ok request)
    (answer : Except TransportFault Wire.Response) :
    tokenAnswer? config request answer =
      (Store.received exchange.endpoint answer).toOption := by
  unfold tokenAnswer?
  rw [Config.endpoint?_grantRequest hrequest]
  cases exchange <;> rfl

/-- An exchange issues the credential that it stores, and no other. -/
theorem kept_exchange (hrevoke : operation ≠ .revoke) (exchange : Exchange)
    (hagrees : Agrees config (during config operation past log) stored)
    (hsuits : exchange.Suits stored) :
    (Store.perform config exchange).run.Obeys
      (fun log => Follows config (during config operation past log))
      (Rests (fun log => Agrees config (during config operation past log))
        fun stored _ => stored.isBlank = false) log stored := by
  rw [Store.perform_run]
  cases hrequest : config.grantRequest exchange.endpoint
      (exchange.grant config.login) with
  | error failure => exact ⟨hagrees, by simp⟩
  | ok request =>
      refine ⟨⟨fun _ => hagrees.held, ?_⟩, fun answer _ => ?_⟩
      · intro sent hsent
        cases hsent
        exact Wire.Request.carries_of_exchange hsuits hrequest
      -- The ledger after the answer, and once the clock was read.
      have hsent : during config operation past
          (log ++ [⟨stored, .send request, answer⟩]) =
            ⟨stored, (Store.received exchange.endpoint answer).toOption⟩ := by
        rw [during_append_singleton, enter_send hrevoke,
          tokenAnswer?_exchange hrequest, ← hagrees.held]
      have hnow : ∀ token now,
          Store.received exchange.endpoint answer = .ok token →
            during config operation past
                (log ++ [⟨stored, .send request, answer⟩] ++ [⟨stored, .now, now⟩]) =
              ⟨(Credential.ofAnswer token now).toOption.getD stored, none⟩ := by
        intro token now hreceived
        rw [during_append_singleton, hsent, hreceived]
        exact enter_now hrevoke stored stored token now
      refine Store.obeys_settle ?_ ?_ ?_ ?_
      · intro failure hreceived
        have hfailed : Agrees config (during config operation past
            (log ++ [⟨stored, .send request, answer⟩])) stored := by
          rw [hsent, hreceived]
          exact ⟨rfl, rfl, hagrees.userAgent⟩
        exact ⟨hfailed, by simp⟩
      · intro token hreceived
        refine ⟨fun _ => ?_, by simp⟩
        rw [hsent]
        rfl
      · intro token now failure hreceived hrefused
        have hfailed : Agrees config (during config operation past
            (log ++ [⟨stored, .send request, answer⟩] ++ [⟨stored, .now, now⟩]))
            stored := by
          rw [hnow token now hreceived, hrefused]
          exact ⟨rfl, rfl, hagrees.userAgent⟩
        exact ⟨hfailed, by simp⟩
      · intro token now credential hreceived hissued
        have hwritten : Agrees config (during config operation past
            (log ++ [⟨stored, .send request, answer⟩] ++ [⟨stored, .now, now⟩] ++
              [⟨stored, .replace credential, ()⟩])) credential := by
          rw [during_append_singleton, hnow token now hreceived, hissued,
            enter_replace hrevoke]
          exact ⟨rfl, rfl, .inr ⟨_, _, request, hrequest⟩⟩
        exact ⟨⟨by simp, by simp⟩, hwritten,
          fun _ _ => (Credential.ofAnswer_complete hissued).token⟩

theorem kept (hrevoke : operation ≠ .revoke) :
    Kept config (fun _ => True)
      (fun log => Follows config (during config operation past log))
      (fun log => Agrees config (during config operation past log)) where
  idle {log stored} query hagrees hidle := by
    refine ⟨hagrees.follows ?_, fun answer _ => ?_⟩
    · intro request hquery
      rw [hquery] at hidle
      exact hidle
    · rw [during_append_singleton]
      exact hagrees.idle hidle (revokes_of_ne hrevoke query)
  exchange exchange hagrees hsuits := kept_exchange hrevoke exchange hagrees hsuits
  deliver {log stored} call url request hagrees hheld _ hrequest := by
    refine ⟨⟨fun _ => hagrees.held, ?_⟩, fun answer => ?_⟩
    · intro sent hsent
      cases hsent
      exact Wire.Request.carries_of_assemble hheld hrequest
    · have hnone : tokenAnswer? config request answer = none := by
        rw [tokenAnswer?, Wire.Request.endpoint?_of_assemble hrequest]
      rw [during_append_singleton, enter_send hrevoke, hnone]
      exact ⟨hagrees.held, rfl, hagrees.userAgent⟩

/-- The end of a revocation, once the ledger is cleared. -/
theorem clear_obeys (result : Except Failure Unit)
    (hcleared : during config .revoke past log = {}) :
    (Program.ask (.replace .blank) fun _ => .ask .unlock fun _ =>
        .done result).Obeys
      (fun log => Follows config (during config .revoke past log))
      (Rests (fun log => Agrees config (during config .revoke past log))
        fun _ _ => True) log stored := by
  have hwritten : during config .revoke past
      (log ++ [⟨stored, .replace .blank, ()⟩]) = {} := by
    rw [during_append_singleton, hcleared]
    rfl
  refine ⟨⟨by simp, by simp⟩, fun _ _ => ?_⟩
  refine ⟨⟨fun _ => ?_, by simp⟩, fun _ _ => ⟨⟨?_, ?_, .inl rfl⟩, by simp⟩⟩
  · rw [hwritten]
    rfl
  · rw [during_append_singleton, hwritten]
    rfl
  · rw [during_append_singleton]
    rfl

theorem revoke_obeys
    (hagrees : Agrees config (during config .revoke past log) stored) :
    (Store.revoke config).run.Obeys
      (fun log => Follows config (during config .revoke past log))
      (Rests (fun log => Agrees config (during config .revoke past log))
        fun _ _ => True) log stored := by
  rw [Store.revoke_run]
  refine ⟨hagrees.follows (by simp), fun _ _ => ?_⟩
  have hlocked : Agrees config
      (during config .revoke past (log ++ [⟨stored, .lock, ()⟩])) stored := by
    rw [during_append_singleton]
    exact hagrees.idle trivial rfl
  refine ⟨hlocked.follows (by simp), fun answer hanswer => ?_⟩
  cases hanswer
  dsimp only [Query.leaves]
  cases hrefresh : stored.refreshToken with
  | none =>
      apply clear_obeys (.ok ())
      rw [during_append_singleton]
      refine enter_revoking ?_ rfl
      rw [revokes, ← hlocked.held, hrefresh]
      rfl
  | some refreshToken =>
      have hlooked : Agrees config (during config .revoke past
          (log ++ [⟨stored, .lock, ()⟩] ++ [⟨stored, .credential, stored⟩]))
          stored := by
        rw [during_append_singleton]
        refine hlocked.idle trivial ?_
        rw [revokes, ← hlocked.held, hrefresh]
        rfl
      -- A refresh token was obtained with a request, so this one can be built.
      obtain ⟨request, hrequest⟩ : ∃ request, config.grantRequest .revoke
          (config.login.refreshGrant refreshToken) = .ok request := by
        rcases hagrees.userAgent with hblank | ⟨_, _, _, hrequest⟩
        · rw [hblank] at hrefresh
          cases hrefresh
        · exact (Config.canGrant_of_grantRequest hrequest).grantRequest _ _
      simp only [hrequest]
      refine ⟨⟨fun _ => hlooked.held, ?_⟩, fun answer _ => clear_obeys _ ?_⟩
      · intro sent hsent
        cases hsent
        exact Wire.Request.carries_of_revocation hrefresh hrequest
      · rw [during_append_singleton]
        apply enter_revoking rfl
        simp [dueAfter, tokenAnswer?, Config.endpoint?_grantRequest hrequest]

theorem perform_obeys (hruns : operation.RunsToEnd)
    (hagrees : Agrees config (during config operation past log) stored) :
    (operation.perform config).run.Obeys
      (fun log => Follows config (during config operation past log))
      (Rests (fun log => Agrees config (during config operation past log))
        fun _ _ => True) log stored := by
  by_cases hrevoke : operation = .revoke
  · subst hrevoke
    exact Rests.map (revoke_obeys hagrees)
  · exact (kept hrevoke).perform hagrees operation hruns hrevoke fun _ _ => trivial

/-! ## Tokens that are no longer held -/

/-- Nothing is held that was not held before or issued since, unless the ledger
was cleared. -/
theorem held_after (config : Config) (ledger : Ledger) (log : List (Operation × Event)) :
    let after := log.foldl
      (fun ledger entry => ledger.enter config entry.1 entry.2) ledger
    after.held = ledger.held ∨ after.held = .blank ∨
      after.held ∈ ledger.issues config log := by
  induction log generalizing ledger with
  | nil => exact .inl rfl
  | cons entry rest ih =>
      obtain ⟨operation, event⟩ := entry
      have hfirst : (ledger.enter config operation event).held = ledger.held ∨
          (ledger.enter config operation event).held = .blank ∨
          ledger.issue? event =
            some (ledger.enter config operation event).held := by
        simp only [enter]
        split
        · exact .inr (.inl rfl)
        · cases hissue : ledger.issue? event with
          | none => exact .inl rfl
          | some credential => exact .inr (.inr rfl)
      simp only [List.foldl_cons, issues, List.mem_append, Option.mem_toList]
      rcases ih (ledger.enter config operation event) with hrest | hrest | hrest
      · rw [hrest]
        rcases hfirst with hheld | hblank | hissued
        · exact .inl hheld
        · exact .inr (.inl hblank)
        · exact .inr (.inr (.inl hissued))
      · exact .inr (.inl hrest)
      · exact .inr (.inr (.inr hrest))

variable {before middle : List (Operation × Event)} {request : Wire.Request}

/-- A call bears the token that was held before, or one that was issued since. -/
theorem Follows.token_issued {token : String}
    (hfollows : Follows config (ofLog config (before ++ middle)) stored
      (.send request)) (hbears : request.Bears token) :
    (ofLog config before).held.token = token ∨
      ∃ issued ∈ (ofLog config before).issues config middle,
        issued.token = token := by
  obtain ⟨hheld, hcarries⟩ := hfollows
  have hstored : stored = (ofLog config (before ++ middle)).held :=
    hheld fun _ => by simp
  obtain ⟨htoken, hcredential⟩ := (hcarries request rfl).token_eq hbears
  rw [hstored, ofLog_append] at htoken hcredential
  rcases held_after config (ofLog config before) middle with hsame | hblank | hissued
  · exact .inl (by rw [htoken, hsame])
  · rw [hblank] at hcredential
    cases hcredential
  · exact .inr ⟨_, hissued, htoken.symm⟩

/-- A grant has the refresh token that was held before, or one that was issued
since. -/
theorem Follows.refreshToken_issued {refreshToken : String}
    (hfollows : Follows config (ofLog config (before ++ middle)) stored
      (.send request)) (hgrants : request.Grants config refreshToken) :
    (ofLog config before).held.refreshToken = some refreshToken ∨
      ∃ issued ∈ (ofLog config before).issues config middle,
        issued.refreshToken = some refreshToken := by
  obtain ⟨hheld, hcarries⟩ := hfollows
  have hstored : stored = (ofLog config (before ++ middle)).held :=
    hheld fun _ => by simp
  have hrefresh := (hcarries request rfl).refreshToken_eq hgrants
  rw [hstored, ofLog_append] at hrefresh
  rcases held_after config (ofLog config before) middle with hsame | hblank | hissued
  · exact .inl (by rw [← hsame, hrefresh])
  · rw [hblank] at hrefresh
    cases hrefresh
  · exact .inr ⟨_, hissued, hrefresh⟩

/-- The store is in line with the ledger at the end of a session, and follows it
on the way. -/
theorem session_agrees {σ : Type} (config : Config) (backend : Backend σ)
    (outside : σ) (operations : List Operation)
    (hruns : ∀ operation ∈ operations, operation.RunsToEnd) :
    Agrees config
        (ofLog config (Session.log config backend operations { outside }))
        (Session.world config backend operations { outside }).credential ∧
      ∀ before operation event after,
        Session.log config backend operations { outside } =
          before ++ (operation, event) :: after →
        Follows config (ofLog config before) event.stored event.query := by
  have hkeeps : ∀ operation ∈ operations, ∀ past stored,
      Agrees config (ofLog config past) stored →
        (operation.perform config).run.Obeys
          (fun log stored query => Follows config
            (during config operation past log) stored query)
          (fun log stored _ => Agrees config
            (during config operation past log) stored)
          [] stored := by
    intro operation hmember past stored hagrees
    have hduring : Agrees config (during config operation past []) stored := by
      rw [during_nil]
      exact hagrees
    exact (perform_obeys (hruns operation hmember) hduring).mono
      (fun _ _ _ hask => hask) (fun _ _ _ hrests => hrests.1)
  have hinvariant := Session.invariant config backend operations { outside }
    (fun past _ => Follows config (ofLog config past))
    (fun past => Agrees config (ofLog config past)) [] ⟨rfl, rfl, .inl rfl⟩ hkeeps
  simpa only [List.nil_append] using hinvariant

end Ledger

/-- What the ledger says of a session, given its log and the credential that is
stored at its end. -/
structure Session.FollowsLedger (config : Config) (log : List (Operation × Event))
    (final : Credential) : Prop where
  /-- at the end the credential of the ledger is stored -/
  final_eq : final = (Ledger.ofLog config log).held
  /-- and whenever something is asked, other than to write a credential -/
  stored_eq : ∀ before operation event after,
    log = before ++ (operation, event) :: after →
      (∀ credential, event.query ≠ .replace credential) →
        event.stored = (Ledger.ofLog config before).held
  /-- requests carry the tokens of the credential that is stored -/
  carries : ∀ before operation event after request,
    log = before ++ (operation, event) :: after →
      event.query = .send request → request.Carries config event.stored
  /-- a token that is not held is borne only if it is issued again -/
  token_issued : ∀ before middle operation event after request token,
    log = before ++ middle ++ (operation, event) :: after →
      event.query = .send request → request.Bears token →
        (Ledger.ofLog config before).held.token = token ∨
          ∃ issued ∈ (Ledger.ofLog config before).issues config middle,
            issued.token = token
  /-- a refresh token that is not held is granted only if it is issued again -/
  refreshToken_issued : ∀ before middle operation event after request refreshToken,
    log = before ++ middle ++ (operation, event) :: after →
      event.query = .send request → request.Grants config refreshToken →
        (Ledger.ofLog config before).held.refreshToken = some refreshToken ∨
          ∃ issued ∈ (Ledger.ofLog config before).issues config middle,
            issued.refreshToken = some refreshToken

/-- The stored credential follows the ledger through every session. -/
theorem session_followsLedger {σ : Type} (config : Config) (backend : Backend σ)
    (outside : σ) (operations : List Operation)
    (hruns : ∀ operation ∈ operations, operation.RunsToEnd) :
    Session.FollowsLedger config
      (Session.log config backend operations { outside })
      (Session.world config backend operations { outside }).credential := by
  obtain ⟨hfinal, hfollows⟩ :=
    Ledger.session_agrees config backend outside operations hruns
  have hsends : ∀ before operation event after request,
      Session.log config backend operations { outside } =
        before ++ (operation, event) :: after →
      event.query = .send request →
        Ledger.Follows config (Ledger.ofLog config before) event.stored
          (.send request) := by
    intro before operation event after request hsplit hquery
    rw [← hquery]
    exact hfollows before operation event after hsplit
  constructor
  · exact hfinal.held
  · intro before operation event after hsplit
    exact (hfollows before operation event after hsplit).1
  · intro before operation event after request hsplit hquery
    exact (hsends before operation event after request hsplit hquery).2 request rfl
  · intro before middle operation event after request token hsplit hquery hbears
    exact (hsends _ _ _ _ _ hsplit hquery).token_issued hbears
  · intro before middle operation event after request refreshToken hsplit hquery
      hgrants
    exact (hsends _ _ _ _ _ hsplit hquery).refreshToken_issued hgrants

/-- A session in which a token is issued, rejected and renewed, then revoked,
and a call obtains another one. -/
theorem session_followsLedger_rehearsed :
    let config : Config :=
      { apiUrl := "https://api.test", login := ⟨"user", "secret", "id", "key"⟩ }
    let script : Rehearsal.Script := ⟨[
      ("app", [.token (some "first-{n}") (some "again") (some (.after 3600000))]),
      ("refresh", [.plain 500 "", .token (some "second") none (some (.after 1000))]),
      ("*", [.plain 401 "", .json 200 .null])]⟩
    let operations : List Operation :=
      [.getToken, .execute (.get "items"), .refresh, .revoke, .send (.get "items")]
    (∀ operation ∈ operations, operation.RunsToEnd) ∧
      Session.FollowsLedger config
        (Session.log config script.backend operations { outside := ⟨.epoch, []⟩ })
        (Session.world config script.backend operations
          { outside := ⟨.epoch, []⟩ }).credential := by
  intro config script operations
  have hruns : ∀ operation ∈ operations, operation.RunsToEnd := by
    simp [operations, Operation.RunsToEnd]
  exact ⟨hruns, session_followsLedger config script.backend _ operations hruns⟩

end BearerClient
