import BearerClient.Proofs.Credential.Complete
import BearerClient.Proofs.Meeting.Tasks
import BearerClient.Proofs.Store.Grant

/-!
# Refreshes that meet

Calls that are rejected at the same time all ask for a refresh.  The first
exchange that succeeds serves them all: it leaves a credential that is fresh for
everybody who reads the clock less than the buffer after any of them could have
asked.  Until then each refresh carries out an exchange of its own, since a failed
one leaves the credential as it was.
-/

namespace BearerClient

namespace Credential

variable {credential : Credential} {last now : Instant} {buffer : Duration}

theorem isFresh_of_lt (hlast : credential.lastUpdate = some last)
    (hnow : now.nanos < last.nanos + buffer.nanos)
    (hmax : now.nanos < Instant.maxNanos) : credential.isFresh now buffer = true := by
  have hlater : now.nanos < (last.later buffer).nanos := by
    rw [Instant.later, Instant.nanos_clamp]
    omega
  rw [isFresh, hlast]
  exact decide_eq_true hlater

theorem isFresh_eq_false_of_le (hlast : credential.lastUpdate = some last)
    (hnow : last.nanos + buffer.nanos ≤ now.nanos) :
    credential.isFresh now buffer = false := by
  have hlater : ¬now.nanos < (last.later buffer).nanos := by
    have hmin := last.min_le
    have hmax := now.le_max
    rw [Instant.later, Instant.nanos_clamp]
    omega
  rw [isFresh, hlast]
  exact decide_eq_false hlater

theorem lastUpdate_of_ofAnswer {answer : TokenAnswer}
    (hissued : ofAnswer answer now = .ok credential) :
    credential.lastUpdate = some now := by
  unfold ofAnswer at hissued
  split at hissued
  · cases hissued
  · split at hissued
    · cases hissued
    · cases hissued
      rfl

end Credential

/-- The instant is less than a while after another one, and not the last of all. -/
structure Instant.Within (start : Instant) (buffer : Duration) (now : Instant) :
    Prop where
  le : start.nanos ≤ now.nanos
  lt : now.nanos < start.nanos + buffer.nanos
  lt_max : now.nanos < Instant.maxNanos

/-! ## One refresh -/

namespace Store

variable {config : Config} {clock : Instant → Prop} {log : List Event}
  {stored : Credential}

/-- An exchange was carried out, with one request.  Either it has brought another
credential or it has failed and the credential is as it was. -/
structure Renewed (config : Config) (clock : Instant → Prop) (stored : Credential)
    (log : List Event) (after : Credential) (result : Option (Except Failure Unit)) :
    Prop where
  requests : ∃ request, Event.requests log = [request] ∧ request.Exchanges config
  outcome :
    (after = stored ∧ result ≠ some (.ok ())) ∨
      (result = some (.ok ()) ∧ after.isBlank = false ∧
        ∃ now, clock now ∧ after.lastUpdate = some now)

/-- What has to hold only if the clock shows what it should. -/
def IfClocked (clock : Instant → Prop) (ends : Ends (Except Failure Unit)) :
    Ends (Except Failure Unit) :=
  fun log after result => Event.Clocked clock log → ends log after result

/-- A refresh that only looks at the clock and the credential. -/
def AsksIdle (clock : Instant → Prop) : Asks :=
  fun log _ query => Event.Clocked clock log → query.request? = none

theorem obeys_of_not_clocked {asks : Asks} {ends : Ends (Except Failure Unit)}
    {program : Program (Except Failure Unit)}
    (hasks : ∀ log stored query, ¬Event.Clocked clock log → asks log stored query)
    (hends : ∀ log stored result, ¬Event.Clocked clock log →
      ends log stored result)
    (hlog : ¬Event.Clocked clock log) : program.Obeys asks ends log stored := by
  induction program generalizing log stored with
  | done a => exact hends _ _ _ hlog
  | abort => exact hends _ _ _ hlog
  | ask query next ih =>
      refine ⟨hasks _ _ _ hlog, fun answer _ => ih answer fun hclocked => ?_⟩
      exact hlog (hclocked.mono (by simp))

theorem perform_renews (clock : Instant → Prop) (hgrant : config.CanGrant) (exchange : Exchange)
    (hlog : Event.requests log = []) :
    (perform config exchange).run.Obeys (fun _ _ _ => True)
      (IfClocked clock (Renewed config clock stored)) log stored := by
  obtain ⟨request, hrequest⟩ :=
    hgrant.grantRequest exchange.endpoint (exchange.grant config.login)
  have hexchanges := Wire.Request.exchanges_of_grantRequest hrequest
  have hsent : ∀ answer, Event.requests
      (log ++ [⟨stored, .send request, answer⟩]) = [request] := by
    intro answer
    rw [Event.requests_append, hlog]
    rfl
  rw [perform_run, hrequest]
  refine ⟨trivial, fun answer _ => obeys_settle ?_ ?_ ?_ ?_⟩
  · exact fun _ _ _ => ⟨⟨request, hsent answer, hexchanges⟩, .inl ⟨rfl, by simp⟩⟩
  · exact fun _ _ => trivial
  · refine fun _ _ _ _ _ _ => ⟨⟨request, ?_, hexchanges⟩, .inl ⟨rfl, by simp⟩⟩
    rw [Event.requests_append, hsent answer]
    rfl
  · refine fun _ now credential _ hissued => ⟨trivial, fun hclocked =>
      ⟨⟨request, ?_, hexchanges⟩, .inr ⟨rfl, ?_, now, ?_, ?_⟩⟩⟩
    · rw [Event.requests_append, Event.requests_append, hsent answer]
      rfl
    · exact (Credential.ofAnswer_complete hissued).token
    · exact hclocked.now stored (by simp [Query.leaves])
    · exact Credential.lastUpdate_of_ofAnswer hissued

/-- The refresh of a credential that is due is an exchange. -/
theorem refresh_renews (hgrant : config.CanGrant)
    (hdue : stored.isBlank = true ∨
      ∀ now, clock now → stored.isFresh now config.freshBuffer = false) :
    (refresh config).run.Obeys (fun _ _ _ => True)
      (IfClocked clock (Renewed config clock stored)) [] stored := by
  have hrenews : ∀ (log : List Event) (exchange : Exchange),
      Event.requests log = [] →
        (perform config exchange).run.Obeys (fun _ _ _ => True)
          (Call.Unlocking (fun _ _ _ => True)
            (IfClocked clock (Renewed config clock stored))) log stored := by
    intro log exchange hlog
    refine (perform_renews clock hgrant exchange hlog).mono
      (fun _ _ _ hask => hask) ?_
    intro log after result hrenewed
    cases result with
    | none => exact hrenewed
    | some result =>
        refine ⟨trivial, fun hclocked => ?_⟩
        obtain ⟨⟨request, hrequests, hexchanges⟩, houtcome⟩ :=
          hrenewed (hclocked.mono (by simp))
        refine ⟨⟨request, ?_, hexchanges⟩, houtcome⟩
        rw [Event.requests_append, hrequests]
        rfl
  refine Call.obeys_locked.2 ⟨trivial, Call.obeys_bind.2 ?_⟩
  rw [exchangeForRefresh_run]
  refine obeys_decision trivial (fun _ => hrenews _ _ rfl) (fun _ => trivial) ?_
  intro now hheld
  cases hfresh : stored.isFresh now config.freshBuffer with
  | false => exact hrenews _ _ rfl
  | true =>
      have hclock : ¬clock now := by
        rcases hdue with hblank | hdue
        · rw [hheld] at hblank
          cases hblank
        · intro hclock
          rw [hdue now hclock] at hfresh
          cases hfresh
      exact ⟨trivial, fun hclocked => absurd
        (hclocked.now stored (by simp)) hclock⟩

/-- The refresh of a credential that is fresh does nothing. -/
theorem refresh_rests (hheld : stored.isBlank = false)
    (hfresh : ∀ now, clock now → stored.isFresh now config.freshBuffer = true) :
    (refresh config).run.Obeys (AsksIdle clock)
      (IfClocked clock fun _ after result =>
        after = stored ∧ result = some (.ok ())) [] stored := by
  have hidle : ∀ {query : Query} (log : List Event), query.request? = none →
      AsksIdle clock log stored query := fun _ hnone _ => hnone
  refine Call.obeys_locked.2 ⟨hidle _ rfl, Call.obeys_bind.2 ?_⟩
  rw [exchangeForRefresh_run]
  refine obeys_decision (hidle _ rfl) ?_ (fun _ => hidle _ rfl) ?_
  · intro hblank
    rw [hheld] at hblank
    cases hblank
  · intro now _
    cases hcurrent : stored.isFresh now config.freshBuffer with
    | true => exact ⟨hidle _ rfl, fun _ => ⟨rfl, rfl⟩⟩
    | false =>
        have hclock : ¬clock now := by
          intro hclock
          rw [hfresh now hclock] at hcurrent
          cases hcurrent
        refine obeys_of_not_clocked ?_ ?_
          fun hclocked => hclock (hclocked.now stored (by simp))
        · exact fun _ _ _ hlog hclocked => absurd hclocked hlog
        · intro log after result hlog
          cases result with
          | none => exact fun hclocked => absurd hclocked hlog
          | some result =>
              refine ⟨fun hclocked => absurd hclocked hlog, fun hclocked => ?_⟩
              exact absurd (hclocked.mono (by simp)) hlog

theorem refresh_silent (hheld : stored.isBlank = false)
    (hfresh : ∀ now, clock now → stored.isFresh now config.freshBuffer = true)
    {rest : Program (Except Failure Unit)} {after : Credential}
    (hleads : (refresh config).run.Leads stored log rest after)
    (hclocked : Event.Clocked clock log) : Event.requests log = [] := by
  apply List.filterMap_eq_nil_iff.2
  intro event hmem
  obtain ⟨before, hbefore, hasks⟩ :=
    hleads.asked (refresh_rests hheld hfresh) hmem
  exact hasks (hclocked.mono hbefore.subset)

/-! ## Refreshes at a meeting -/

section Meetings

open Program

variable {ι : Type} [DecidableEq ι] {start : Credential} {trace : Trace ι}
  {meeting : Meeting fun _ : ι => Except Failure Unit} {i : ι}

/-- The party's refresh is at its end, and has succeeded. -/
def Succeeded (meeting : Meeting fun _ : ι => Except Failure Unit) (i : ι) : Prop :=
  meeting.stances i = .ready (.done (.ok ()))

theorem clocked_eventsOf (hclocked : Event.Clocked clock (trace.map (·.2)))
    (i : ι) : Event.Clocked clock (trace.eventsOf i) := by
  apply hclocked.mono
  intro event hmem
  obtain ⟨entry, hentry, rfl⟩ := List.mem_map.1 hmem
  exact List.mem_map_of_mem (List.mem_of_mem_filter hentry)

/-- What is stored after some refreshes: what was stored before them, if none has
succeeded, or else what an exchange has brought in the meantime. -/
theorem turns_stored (hgrant : config.CanGrant)
    (hclocked : Event.Clocked clock (trace.map (·.2)))
    (hdue : start.isBlank = true ∨
      ∀ now, clock now → start.isFresh now config.freshBuffer = false)
    (hlasts : ∀ (credential : Credential) last,
      credential.lastUpdate = some last → clock last →
        ∀ now, clock now → credential.isFresh now config.freshBuffer = true)
    {order : List ι}
    (hturns : Meeting.Turns (fun _ => (refresh config).run) start trace meeting
      order stored) :
    (stored = start ∧ ∀ i ∈ order, ¬Succeeded meeting i) ∨
      ((∃ i ∈ order, Succeeded meeting i) ∧ stored.isBlank = false ∧
        ∀ now, clock now → stored.isFresh now config.freshBuffer = true) := by
  induction hturns with
  | nil => exact .inl ⟨rfl, by simp⟩
  | @snoc order before after i result _ hdone hleads ih =>
      have hturn := clocked_eventsOf hclocked i
      rcases ih with ⟨rfl, hnone⟩ | ⟨⟨j, hj, hsucceeded⟩, hheld, hfresh⟩
      · have hrenewed := hleads.obeys (refresh_renews hgrant hdue) hturn
        rcases hrenewed.outcome with ⟨hsame, hfailed⟩ | ⟨hok, hheld, now, hnow, hlast⟩
        · refine .inl ⟨hsame, fun j hj => ?_⟩
          rcases List.mem_append.1 hj with hj | hj
          · exact hnone j hj
          · cases List.mem_singleton.1 hj
            intro hsucceeded
            cases hdone.symm.trans hsucceeded
            exact hfailed rfl
        · cases hok
          exact .inr ⟨⟨i, by simp, hdone⟩, hheld, hlasts after now hlast hnow⟩
      · obtain ⟨rfl, -⟩ := hleads.obeys (refresh_rests hheld hfresh) hturn
        exact .inr ⟨⟨j, by simp [hj], hsucceeded⟩, hheld, hfresh⟩

/-- A fresh credential is not replaced. -/
theorem turns_rest (hclocked : Event.Clocked clock (trace.map (·.2)))
    (hheld : start.isBlank = false)
    (hfresh : ∀ now, clock now → start.isFresh now config.freshBuffer = true)
    {order : List ι}
    (hturns : Meeting.Turns (fun _ => (refresh config).run) start trace meeting
      order stored) : stored = start := by
  induction hturns with
  | nil => rfl
  | @snoc order before after i result _ _ hleads ih =>
      cases ih
      exact (hleads.obeys (refresh_rests hheld hfresh)
        (clocked_eventsOf hclocked i)).1

/-- Where a fresh credential is stored nothing is sent. -/
theorem sent_eq_nil (hclocked : Event.Clocked clock (trace.map (·.2)))
    (hheld : start.isBlank = false)
    (hfresh : ∀ now, clock now → start.isFresh now config.freshBuffer = true)
    (horderly : Meeting.Orderly (fun _ => (refresh config).run) start trace
      meeting) : meeting.sent = [] := by
  have hrequests : ∀ {order : List ι} {stored : Credential},
      Meeting.Turns (fun _ => (refresh config).run) start trace meeting order
        stored → order.flatMap trace.requestsOf = [] := by
    intro order stored hturns
    apply List.flatMap_eq_nil_iff.2
    intro i hmem
    obtain ⟨past, later, horder⟩ := List.append_of_mem hmem
    obtain ⟨before, after, result, hbefore, -, hleads, -⟩ := hturns.split horder
    cases turns_rest hclocked hheld hfresh hbefore
    exact refresh_silent hheld hfresh hleads (clocked_eventsOf hclocked i)
  cases horderly.phase with
  | idle _ hturns hsent => exact hsent.trans (hrequests hturns)
  | @held past i before rest hturn =>
      cases turns_rest hclocked hheld hfresh hturn.turns
      have hturnClocked := clocked_eventsOf hclocked i
      have hflying : (meeting.stances i).flying = [] := by
        cases hstance : meeting.stances i with
        | ready program => rfl
        | inFlight request next =>
            have hobeys := hturn.leads.obeys (refresh_rests hheld hfresh)
            rw [← hturn.rest_eq, hstance] at hobeys
            cases hobeys.1 hturnClocked
      rw [hturn.sent, hrequests hturn.turns, hflying, Trace.requestsOf,
        refresh_silent hheld hfresh hturn.leads hturnClocked]
      rfl

/-- Refreshes that meet, while the clock moves by less than the buffer, in whichever
direction.  If the stored credential is due, each of them carries out one exchange
until one has succeeded, and all that come after it succeed without a request.  If
it is fresh for all of them nothing is sent. -/
theorem refreshes_debounced (config : Config) (hgrant : config.CanGrant)
    (hrun : Meeting.Run
      (Meeting.opening (fun _ : ι => (refresh config).run) start) trace meeting) :
    (∀ since : Instant,
      Event.Clocked (since.Within config.freshBuffer) (trace.map (·.2)) →
      (start.isBlank = true ∨ ∃ last, start.lastUpdate = some last ∧
        last.nanos + config.freshBuffer.nanos ≤ since.nanos) →
      ∀ i result, meeting.stances i = .ready (.done result) →
        ∃ past later, trace.order = past ++ i :: later ∧
          ((∃ j ∈ past, Succeeded meeting j) →
            trace.requestsOf i = [] ∧ result = .ok ()) ∧
          ((∀ j ∈ past, ¬Succeeded meeting j) →
            ∃ request, trace.requestsOf i = [request] ∧
              request.Exchanges config)) ∧
      ∀ last, start.BlankOrComplete → start.lastUpdate = some last →
        Event.Clocked (last.Within config.freshBuffer) (trace.map (·.2)) →
          meeting.sent = [] := by
  have hattends : (refresh config).run.Attends := Task.refresh.attends config
  have horderly := hrun.orderly fun _ => hattends
  constructor
  · intro since hclocked hstart i result hdone
    have hdue : start.isBlank = true ∨ ∀ now, since.Within config.freshBuffer now →
        start.isFresh now config.freshBuffer = false := by
      rcases hstart with hblank | ⟨last, hlast, hold⟩
      · exact .inl hblank
      · refine .inr fun now hnow => Credential.isFresh_eq_false_of_le hlast ?_
        exact Int.le_trans hold hnow.le
    have hlasts : ∀ (credential : Credential) last,
        credential.lastUpdate = some last → since.Within config.freshBuffer last →
          ∀ now, since.Within config.freshBuffer now →
            credential.isFresh now config.freshBuffer = true := by
      intro credential last hlast hwithin now hnow
      refine Credential.isFresh_of_lt hlast ?_ hnow.lt_max
      have hle := hwithin.le
      have hlt := hnow.lt
      omega
    obtain ⟨body, hbody⟩ : ∃ body, (refresh config).run = locked body := ⟨_, rfl⟩
    have hmem := horderly.mem_order hbody hdone
    obtain ⟨past, later, before, after, horder, hbefore, hleads, -⟩ :=
      horderly.turn hmem hdone
    have hturn := clocked_eventsOf hclocked i
    refine ⟨past, later, horder, ?_⟩
    rcases turns_stored hgrant hclocked hdue hlasts hbefore with
      ⟨rfl, hnone⟩ | ⟨hsome, hheld, hfresh⟩
    · refine ⟨fun ⟨j, hj, hsucceeded⟩ => absurd hsucceeded (hnone j hj), fun _ => ?_⟩
      exact (hleads.obeys (refresh_renews hgrant hdue) hturn).requests
    · refine ⟨fun _ => ⟨refresh_silent hheld hfresh hleads hturn, ?_⟩,
        fun hnone => ?_⟩
      · obtain ⟨-, hok⟩ := hleads.obeys (refresh_rests hheld hfresh) hturn
        exact Option.some.inj hok
      · obtain ⟨j, hj, hsucceeded⟩ := hsome
        exact absurd hsucceeded (hnone j hj)
  · intro last hwhole hlast hclocked
    have hheld : start.isBlank = false := by
      rcases hwhole with rfl | hcomplete
      · cases hlast
      · exact hcomplete.token
    refine sent_eq_nil hclocked hheld ?_ horderly
    exact fun now hnow => Credential.isFresh_of_lt hlast hnow.lt hnow.lt_max

/-- One refresh obtains a credential, the next finds it fresh, and so does one that
begins where it is stored. -/
theorem refreshes_debounced_pair :
    let config : Config :=
      { apiUrl := "https://api.test", login := ⟨"user", "secret", "id", "key"⟩ }
    let issued : Credential :=
      ⟨"first", some (Instant.clamp 3600000000000), none, some .epoch⟩
    config.CanGrant ∧
      (∃ (trace : Trace (Fin 2)) (meeting : Meeting fun _ => Except Failure Unit),
        Meeting.Run
            (Meeting.opening (fun _ => (refresh config).run) .blank) trace meeting ∧
          Event.Clocked (Instant.epoch.Within config.freshBuffer)
            (trace.map (·.2)) ∧
          Succeeded meeting 0 ∧ Succeeded meeting 1 ∧
          ∃ past later, trace.order = past ++ 1 :: later ∧
            ((∃ j ∈ past, Succeeded meeting j) → trace.requestsOf 1 = [] ∧
              Except.ok () = (.ok () : Except Failure Unit)) ∧
            ((∀ j ∈ past, ¬Succeeded meeting j) →
              ∃ request, trace.requestsOf 1 = [request] ∧
                request.Exchanges config)) ∧
      ∃ (trace : Trace (Fin 2)) (meeting : Meeting fun _ => Except Failure Unit),
        Meeting.Run
            (Meeting.opening (fun _ => (refresh config).run) issued) trace meeting ∧
          Event.Clocked (Instant.epoch.Within config.freshBuffer)
            (trace.map (·.2)) ∧
          trace.order = [0] ∧ meeting.sent = [] := by
  intro config issued
  have hvalid :
      (Text.utf8 config.userAgent).all HeaderValue.validOctet = true := by
    decide +kernel +zetaReduce
  have hgrant : config.CanGrant := by
    rw [Config.CanGrant, Config.userAgentValue, HeaderValue.ofText?,
      HeaderValue.ofOctets?, if_pos hvalid]
    exact ⟨_, rfl⟩
  obtain ⟨request, hrequest⟩ := hgrant.grantRequest .app config.login.grant
  have hperform : (perform config .acquire).run =
      .ask (.send request) fun answer => settle (received .app answer) := by
    rw [perform_run]
    simp only [Exchange.endpoint, Exchange.grant, hrequest]
  let response : Wire.Response := ⟨200, .empty,
    .ok (Text.utf8 "\x7b\"token\":\"first\",\"expires_at\":3600000\x7d")⟩
  have hanswer : received .app (.ok response) =
      .ok ⟨some "first", some (Instant.clamp 3600000000000), none⟩ := by
    decide +kernel +zetaReduce
  have hissued : Credential.ofAnswer
      ⟨some "first", some (Instant.clamp 3600000000000), none⟩ .epoch =
        .ok issued := by
    decide
  have hwithin : Instant.epoch.Within config.freshBuffer .epoch := by
    constructor <;> decide
  have hheld : ¬issued.isBlank = true := by decide
  have hcurrent : issued.isFresh .epoch config.freshBuffer = true := by decide
  have hwhole : issued.BlankOrComplete := .inr (Credential.ofAnswer_complete hissued)
  have hlast : issued.lastUpdate = some .epoch := rfl
  clear_value config issued response
  let leave (program : Program (Except Failure Unit)) :
      Stance (Except Failure Unit) := .ready (program.bind releasing)
  -- What a refresh does where the credential is stored that was brought.
  have hdecides : ((do
      if issued.isBlank then return some .acquire
      let now ← Call.ask .now
      if issued.isFresh now config.freshBuffer then return none
      return some (.renewal issued) : Call (Option Exchange)) >>=
        performAny config).run =
      .ask .now fun now =>
        ((if issued.isFresh now config.freshBuffer then pure none
          else pure (some (.renewal issued)) : Call (Option Exchange)) >>=
            performAny config).run := by
    rw [if_neg hheld]
    rfl
  have hrests : ((if issued.isFresh .epoch config.freshBuffer then pure none
      else pure (some (.renewal issued)) : Call (Option Exchange)) >>=
        performAny config).run = .done (.ok ()) := by
    rw [if_pos hcurrent]
    rfl
  have hsettles : settle (received .app (.ok response)) =
      settle (.ok ⟨some "first", some (Instant.clamp 3600000000000), none⟩) := by
    rw [hanswer]
  have hstores : ∀ next, settle
      (.ok ⟨some "first", some (Instant.clamp 3600000000000), none⟩) = .ask .now next →
        next .epoch = .ask (.replace issued) fun _ => .done (.ok ()) := by
    intro next hnext
    cases hnext
    simp only [hissued]
  have hopened : Meeting.Run
      (Meeting.opening (fun _ : Fin 2 => (refresh config).run) .blank) [] _ := .nil
  have hlocked := hopened.snoc
    (.ask 0 .lock (some 0) () rfl rfl ⟨rfl, rfl⟩ trivial)
  have hlooked := hlocked.snoc
    (.ask 0 .credential (some 0) .blank rfl rfl rfl rfl)
  have hsent := hlooked.snoc
    (.send 0 request (congrArg leave hperform))
  have hreceived := hsent.snoc (.receive 0 (.ok response) rfl)
  have hread := hreceived.snoc
    (.ask 0 .now (some 0) .epoch
      (congrArg leave hsettles) rfl rfl trivial)
  have hstored := hread.snoc
    (.ask 0 (.replace issued) (some 0) ()
      (congrArg leave (hstores _ rfl)) rfl rfl trivial)
  have hreleased := hstored.snoc
    (.ask 0 .unlock none () rfl rfl ⟨rfl, rfl⟩ trivial)
  have htaken := hreleased.snoc
    (.ask 1 .lock (some 1) () rfl rfl ⟨rfl, rfl⟩ trivial)
  have hseen := htaken.snoc
    (.ask 1 .credential (some 1) issued rfl rfl rfl rfl)
  have hcurrentSeen := hseen.snoc
    (.ask 1 .now (some 1) .epoch
      (congrArg leave hdecides) rfl rfl trivial)
  have hrested := hcurrentSeen.snoc
    (.ask 1 .unlock none () (congrArg leave hrests)
      rfl ⟨rfl, rfl⟩ trivial)
  have hbegun : Meeting.Run
      (Meeting.opening (fun _ : Fin 2 => (refresh config).run) issued) [] _ := .nil
  have hentered := hbegun.snoc
    (.ask 0 .lock (some 0) () rfl rfl ⟨rfl, rfl⟩ trivial)
  have hfound := hentered.snoc
    (.ask 0 .credential (some 0) issued rfl rfl rfl rfl)
  have hchecked := hfound.snoc
    (.ask 0 .now (some 0) .epoch
      (congrArg leave hdecides) rfl rfl trivial)
  have hclocked : ∀ now, Reading.now now ∈
      [Reading.answer (.ok response), .now .epoch, .now .epoch] →
        Instant.epoch.Within config.freshBuffer now := by
    intro now hmem
    have hepoch : now = .epoch := by simpa using hmem
    exact hepoch ▸ hwithin
  have hclockedOnce : ∀ now, Reading.now now ∈ [Reading.now .epoch] →
      Instant.epoch.Within config.freshBuffer now :=
    fun now hmem => hclocked now (by simpa using hmem)
  refine ⟨hgrant, ⟨_, _, hrested, hclocked, rfl, rfl, ?_⟩,
    _, _, hchecked, hclockedOnce, rfl, ?_⟩
  · exact (refreshes_debounced config hgrant hrested).1 .epoch hclocked
      (.inl rfl) 1 (.ok ()) rfl
  · exact (refreshes_debounced config hgrant hchecked).2 .epoch hwhole hlast
      hclockedOnce

end Meetings

end Store
end BearerClient
