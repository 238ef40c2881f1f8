import BearerClient.Proofs.Meeting.Watch
import BearerClient.Proofs.Store.Grant

/-!
# Renewal among callers

A task renews in the background while callers use the same store.  It looks whether a
token is held and due before it comes for the lock, and once it has the lock it carries
out what is owed to the credential that it finds there.  A revocation may have come in
between.  Then the exchange that is owed is a first one, and so the task obtains a
credential for a client that has been revoked.  It does so only in that window: from a
revocation that it has found done it keeps away.
-/

namespace BearerClient

/-- The question is one that leaves everything as it is. -/
def Query.Looks : Query → Prop
  | .now | .credential => True
  | _ => False

/-- The question has cleared the credential. -/
def Event.Clears (event : Event) : Prop :=
  ∃ written, event.query = .replace written ∧ written.isBlank = true

namespace Renewal

/-! ## The task -/

open Store

variable {config : Config} {role : Role} {watch : Watch} (renewal : Renewal)

theorem sleep_keeps (time : Duration) (hfree : watch.holds = false) :
    (sleep time).Keeps role Watch.released watch :=
  ⟨hfree, fun _ => rfl⟩

theorem renew_keeps (floor : Duration) :
    (renewal.renew config floor).Keeps (.renewing config) Watch.released .aware := by
  have hlock : (Role.renewing config).Allows .aware .lock := ⟨rfl, rfl⟩
  have htoken : (getToken config).run.Keeps (.renewing config) Watch.released .aware :=
    getToken_keeps hlock fun credential request howed => ⟨credential, rfl, howed⟩
  refine htoken.bind fun watch result hfree => ?_
  cases result with
  | ok token => exact hfree
  | error failure => exact (sleep_keeps renewal.retryDelay hfree).bind fun _ _ => id

/-- How an iteration ends that has slept for `pause`. -/
def conclude (config : Config) (floor pause : Duration) (due : Bool) : Program Duration :=
  if due then renewal.renew config floor
  else if pause.isZero then (sleep renewal.minInterval).bind fun _ => .done floor
  else .done floor

theorem iteration_eq (floor : Duration) :
    renewal.iteration config floor = (untilRefresh config).bind fun left =>
      let pause := renewal.pause floor left
      (if pause.isZero then .done () else sleep pause).bind fun _ =>
        authenticated.bind fun held =>
          (if held then needsRenewal config else .done false).bind
            (renewal.conclude config floor pause) := by
  unfold iteration
  apply Program.bind_congr
  intro left
  by_cases hzero : (renewal.pause floor left).isZero = true
  · have hconclude : renewal.conclude config floor (renewal.pause floor left) =
        fun due => if due then renewal.renew config floor
          else (sleep renewal.minInterval).bind fun _ => .done floor := by
      funext due
      simp only [conclude, hzero, if_true]
    simp only [hzero, if_true, hconclude]
    apply Program.bind_congr
    intro held
    cases held <;> rfl
  · have hconclude : renewal.conclude config floor (renewal.pause floor left) =
        fun due => if due then renewal.renew config floor else .done floor := by
      funext due
      simp only [conclude, hzero]
      rfl
    simp only [hzero, hconclude]
    apply Program.bind_congr
    intro _
    apply Program.bind_congr
    intro held
    cases held <;> rfl

theorem conclude_keeps (floor pause : Duration) {due : Bool} (hfree : watch.holds = false)
    (haware : due = true → watch = .aware) :
    (renewal.conclude config floor pause due).Keeps (.renewing config)
      Watch.released watch := by
  cases due with
  | true =>
      obtain rfl := haware rfl
      exact renewal.renew_keeps floor
  | false =>
      by_cases hzero : pause.isZero = true
      · simp only [conclude, hzero, if_true]
        exact (sleep_keeps _ hfree).bind fun _ _ hfree => hfree
      · simp only [conclude, hzero]
        exact hfree

/-- An iteration takes the lock only after it has seen a token, and not if it has slept
since. -/
theorem iteration_keeps (floor : Duration) (hfree : watch.holds = false) :
    (renewal.iteration config floor).Keeps (.renewing config) Watch.released watch := by
  rw [iteration_eq]
  refine (untilRefresh_keeps hfree).bind fun watch left hfree => ?_
  -- Whether it has slept or not, the task looks again before it comes for the lock.
  have hattend (watch : Watch) (hfree : watch.holds = false) :
      (authenticated.bind fun held =>
        (if held then needsRenewal config else .done false).bind
          (renewal.conclude config floor (renewal.pause floor left))).Keeps
            (.renewing config) Watch.released watch := by
    refine (authenticated_keeps hfree).bind fun watch held hseen => ?_
    obtain ⟨hfree, haware⟩ := hseen
    cases held with
    | false => exact renewal.conclude_keeps floor _ hfree nofun
    | true =>
        obtain rfl := haware rfl
        exact needsRenewal_keeps.bind fun _ _ heq =>
          heq ▸ renewal.conclude_keeps floor _ rfl fun _ => rfl
  by_cases hzero : (renewal.pause floor left).isZero = true
  · simp only [hzero, if_true]
    exact hattend watch hfree
  · simp only [hzero]
    exact (sleep_keeps _ hfree).bind fun watch _ hfree => hattend watch hfree

/-- The task, ended after some iterations. -/
def iterations (config : Config) : Nat → Duration → Program Unit
  | 0, _ => .done ()
  | count + 1, floor =>
    (renewal.iteration config floor).bind (iterations config count)

theorem iterations_keeps (count : Nat) (floor : Duration) (hfree : watch.holds = false) :
    (renewal.iterations config count floor).Keeps (.renewing config) Watch.released watch := by
  induction count generalizing floor watch with
  | zero => exact hfree
  | succ count ih =>
      exact (renewal.iteration_keeps floor hfree).bind fun _ floor hfree => ih floor hfree

/-! ## The task among callers -/

section Meetings

open Meeting

variable {ι : Type} [DecidableEq ι] {tasks : ι → List Task} {trace : Trace (Option ι)}
  {stored : Credential}

/-- The task has seen a token, and since then it has only looked and come for the lock.
If there is no token any more a caller has revoked it meanwhile. -/
def Seen (tasks : ι → List Task) (trace : Trace (Option ι)) (stored : Credential) : Prop :=
  ∃ (before between : Trace (Option ι)) (look : Event),
    trace = before ++ (none, look) :: between ∧
    look.query = .credential ∧ look.stored.isBlank = false ∧
    (∀ event ∈ between.eventsOf none, event.query.Looks ∨ event.query = .lock) ∧
    (stored.isBlank = true →
      ∃ j event, (some j, event) ∈ between ∧ event.Clears ∧ Task.revoke ∈ tasks j)

/-- What is known of the task and of what is stored. -/
def Knows (tasks : ι → List Task) (trace : Trace (Option ι)) (stored : Credential) :
    Watch → Prop
  | .away | .served => True
  | .aware | .inside => Seen tasks trace stored
  | .informed credential => Seen tasks trace stored ∧ credential = stored

namespace Seen

theorem begins {answer : Query.credential.Answer} (hheld : stored.isBlank = false) :
    Seen tasks (trace ++ [(none, ⟨stored, .credential, answer⟩)]) stored := by
  refine ⟨trace, [], _, rfl, rfl, hheld, by simp, fun hblank => ?_⟩
  rw [hheld] at hblank
  cases hblank

theorem own (hseen : Seen tasks trace stored) {event : Event}
    (hevent : event.query.Looks ∨ event.query = .lock) :
    Seen tasks (trace ++ [(none, event)]) stored := by
  obtain ⟨before, between, look, rfl, hlook, hheld, hown, hrevoked⟩ := hseen
  refine ⟨before, between ++ [(none, event)], look, by simp, hlook, hheld, ?_, ?_⟩
  · intro earlier hmem
    rw [Trace.eventsOf_append_self] at hmem
    rcases List.mem_append.1 hmem with hmem | hmem
    · exact hown earlier hmem
    · exact List.mem_singleton.1 hmem ▸ hevent
  · intro hblank
    obtain ⟨j, earlier, hmem, hclears, hrevoke⟩ := hrevoked hblank
    exact ⟨j, earlier, List.mem_append_left _ hmem, hclears, hrevoke⟩

theorem other (hseen : Seen tasks trace stored) {j : ι} {query : Query}
    {answer : query.Answer}
    (hclear : ∀ written, query = .replace written → written.isBlank = true →
      Task.revoke ∈ tasks j) :
    Seen tasks (trace ++ [(some j, ⟨stored, query, answer⟩)]) (query.leaves stored) := by
  obtain ⟨before, between, look, rfl, hlook, hheld, hown, hrevoked⟩ := hseen
  refine ⟨before, between ++ [(some j, ⟨stored, query, answer⟩)], look, by simp, hlook,
    hheld, ?_, fun hblank => ?_⟩
  · rw [Trace.eventsOf_append_of_ne between (by simp)]
    exact hown
  · by_cases hwritten : ∃ written, query = .replace written
    · obtain ⟨written, rfl⟩ := hwritten
      exact ⟨j, _, List.mem_append_right _ (List.mem_singleton_self _),
        ⟨written, rfl, hblank⟩, hclear written rfl hblank⟩
    · have hsame : query.leaves stored = stored := by
        cases query with
        | replace written => exact absurd ⟨written, rfl⟩ hwritten
        | _ => rfl
      obtain ⟨k, earlier, hmem, hclears, hrevoke⟩ := hrevoked (hsame ▸ hblank)
      exact ⟨k, earlier, List.mem_append_left _ hmem, hclears, hrevoke⟩

end Seen

/-- What the task knows after a question of its own. -/
theorem Knows.own {config : Config} {watch : Watch} {query : Query} {answer : query.Answer}
    (hknows : Knows tasks trace stored watch)
    (hallows : (Role.renewing config).Allows watch query)
    (hanswer : query.Allows stored answer) :
    Knows tasks (trace ++ [(none, ⟨stored, query, answer⟩)]) (query.leaves stored)
      (watch.after query answer) := by
  cases query with
  | wait time => trivial
  | unlock => trivial
  | replace written => trivial
  | send request => trivial
  | lock =>
      obtain rfl : watch = .aware := hallows.2
      exact Seen.own hknows (.inr rfl)
  | now =>
      cases watch with
      | away => trivial
      | served => trivial
      | aware => exact Seen.own hknows (.inl trivial)
      | inside => exact Seen.own hknows (.inl trivial)
      | informed credential => exact ⟨hknows.1.own (.inl trivial), hknows.2⟩
  | credential =>
      obtain rfl : answer = stored := hanswer
      cases watch with
      | away =>
          cases hblank : Credential.isBlank answer with
          | true =>
              simp only [Watch.after, Watch.sees, hblank]
              trivial
          | false =>
              simp only [Watch.after, Watch.sees, hblank]
              exact Seen.begins hblank
      | served => trivial
      | aware => exact Seen.own hknows (.inl trivial)
      | inside => exact ⟨Seen.own hknows (.inl trivial), rfl⟩
      | informed credential => exact ⟨hknows.1.own (.inl trivial), rfl⟩

/-- What the task knows after a question of a caller, who writes only with the lock. -/
theorem Knows.other {watch watch' : Watch} {j : ι} {query : Query} {answer : query.Answer}
    (hknows : Knows tasks trace stored watch)
    (hallows : (Role.calling (tasks j)).Allows watch' query)
    (halone : watch.holds = true → watch'.holds = false) :
    Knows tasks (trace ++ [(some j, ⟨stored, query, answer⟩)]) (query.leaves stored)
      watch := by
  have hclear : ∀ written, query = .replace written → written.isBlank = true →
      Task.revoke ∈ tasks j := by
    rintro written rfl
    exact hallows.2
  cases watch with
  | away => trivial
  | served => trivial
  | aware => exact Seen.other hknows hclear
  | inside => exact Seen.other hknows hclear
  | informed credential =>
      -- The task has the lock, and so nobody else writes.
      have hsame : query.leaves stored = stored := by
        cases query with
        | replace written =>
            have hholds : watch'.holds = true := hallows.1
            rw [halone rfl] at hholds
            cases hholds
        | _ => rfl
      exact ⟨hknows.1.other hclear, hknows.2.trans hsame.symm⟩

/-! ## Whole meetings -/

/-- A task that renews, and any number of callers. -/
def company (renewal : Renewal) (config : Config) (iterations : Nat) (floor : Duration)
    (tasks : ι → List Task) : Option ι → Program Unit
  | none => renewal.iterations config iterations floor
  | some j => Task.sequence config (tasks j)

def roles (config : Config) (tasks : ι → List Task) : Option ι → Role
  | none => .renewing config
  | some j => .calling (tasks j)

variable {renewal : Renewal} {config : Config} {iterations : Nat} {floor : Duration}
  {start : Credential} {meeting final : Meeting fun _ : Option ι => Unit}

/-- All parties are watched, and the task knows what it should. -/
def Attended (config : Config) (tasks : ι → List Task) (trace : Trace (Option ι))
    (meeting : Meeting fun _ : Option ι => Unit) : Prop :=
  ∃ watches, meeting.Watched (roles config tasks) watches ∧
    Knows tasks trace meeting.credential (watches none)

theorem attended_opening :
    Attended config tasks []
      (opening (company renewal config iterations floor tasks) start) := by
  refine ⟨fun _ => .away, ⟨fun i => ?_, fun i => ⟨nofun, nofun⟩⟩, trivial⟩
  cases i with
  | none => exact (renewal.iterations_keeps iterations floor rfl).mono fun _ _ _ => trivial
  | some j =>
      exact (Task.sequence_keeps (List.Subset.refl _) rfl).mono fun _ _ _ => trivial

theorem Attended.answers (hattended : Attended config tasks trace meeting) {i : Option ι}
    {query : Query} {next : query.Answer → Program Unit} {answer : query.Answer}
    (hanswers : Answers meeting i query next answer final) :
    Attended config tasks (trace ++ [(i, ⟨meeting.credential, query, answer⟩)]) final := by
  obtain ⟨watches, hwatched, hknows⟩ := hattended
  have hallows := hwatched.allows hanswers.rest
  refine ⟨_, hwatched.answers hanswers, ?_⟩
  rw [hanswers.credential]
  cases i with
  | none =>
      rw [Function.update_self]
      exact hknows.own hallows hanswers.allows
  | some j =>
      rw [Function.update_of_ne (by simp)]
      refine hknows.other hallows fun hholds => ?_
      have hholder := (hwatched.holds none).1 hholds
      have hfree := mt (hwatched.holds (some j)).1
      simpa [hholder] using hfree

theorem Attended.of_run
    (hrun : Run (opening (company renewal config iterations floor tasks) start)
      trace meeting) : Attended config tasks trace meeting := by
  induction hrun with
  | nil => exact attended_opening
  | snoc _ hstep ih =>
      rcases hstep.cases with ⟨i, query, next, answer, rfl, hanswers⟩ | ⟨i, request, rfl, hsends⟩
      · exact ih.answers hanswers
      · obtain ⟨watches, hwatched, hknows⟩ := ih
        refine ⟨watches, hwatched.sends hsends, ?_⟩
        rw [hsends.credential]
        simpa using hknows

/-! ## The window -/

/-- A party's looks need nobody's leave. -/
theorem run_looks {κ : Type} [DecidableEq κ] {α : κ → Type} {meeting : Meeting α} (i : κ)
    {program rest : Program (α i)} {log : List Event}
    (hleads : program.Leads meeting.credential log rest stored)
    (hlooks : ∀ event ∈ log, event.query.Looks)
    (hstance : meeting.stances i = .ready program) :
    stored = meeting.credential ∧
      Run meeting (log.map fun event => (i, event))
        { meeting with stances := Function.update meeting.stances i (.ready rest) } := by
  induction hleads with
  | nil =>
      rw [← hstance, Function.update_eq_self]
      exact ⟨rfl, .nil⟩
  | @snoc log stored query next hleads answer hanswer ih =>
      obtain ⟨rfl, hrun⟩ := ih fun event hmem => hlooks event (List.mem_append_left _ hmem)
      have hlook : query.Looks := hlooks _ (List.mem_append_right _ (List.mem_singleton_self _))
      have hsend : query.request? = none := by
        cases query <;> first | rfl | exact hlook.elim
      have hpasses : query.Passes i meeting.holder meeting.holder := by
        cases query <;> first | rfl | exact hlook.elim
      have hleaves : query.leaves meeting.credential = meeting.credential := by
        cases query <;> first | rfl | exact hlook.elim
      have hstep := hrun.snoc
        (.ask i query meeting.holder answer (Function.update_self ..) hsend hpasses hanswer)
      simp only [Function.update_idem, hleaves] at hstep
      rw [List.map_append]
      exact ⟨hleaves, hstep⟩

section Due

variable {held : Credential} {threshold now later : Instant}

theorem untilRefresh_leads
    (hthreshold : held.threshold config.refreshMargin = some threshold) :
    (untilRefresh config).Leads held [⟨held, .credential, held⟩, ⟨held, .now, now⟩]
      (.done (some (Instant.wait now threshold))) held := by
  refine Program.Leads.cons rfl ?_
  dsimp only [Program.bind]
  rw [hthreshold]
  exact .cons trivial .nil

theorem authenticated_leads (hheld : held.isBlank = false) :
    authenticated.Leads held [⟨held, .credential, held⟩] (.done true) held := by
  refine Program.Leads.cons rfl ?_
  dsimp only [Program.bind]
  rw [hheld]
  exact .nil

theorem needsRenewal_leads (hdue : held.isExpired later config.refreshMargin = true) :
    (needsRenewal config).Leads held [⟨held, .credential, held⟩, ⟨held, .now, later⟩]
      (.done true) held := by
  refine Program.Leads.cons rfl (.cons trivial ?_)
  dsimp only [Program.bind]
  rw [hdue]
  exact .nil

/-- The looks of an iteration that finds a token due. -/
def dueLooks (held : Credential) (now later : Instant) : List Event :=
  [⟨held, .credential, held⟩, ⟨held, .now, now⟩, ⟨held, .credential, held⟩,
    ⟨held, .credential, held⟩, ⟨held, .now, later⟩]

/-- The looks of an iteration that finds a token and has not yet asked whether it is due. -/
def heldLooks (held : Credential) (now : Instant) : List Event :=
  [⟨held, .credential, held⟩, ⟨held, .now, now⟩, ⟨held, .credential, held⟩]

theorem iteration_attends (renewal : Renewal) (hheld : held.isBlank = false)
    (hthreshold : held.threshold config.refreshMargin = some threshold)
    (hzero : (renewal.pause floor (some (Instant.wait now threshold))).isZero = true) :
    (renewal.iteration config floor).Leads held (heldLooks held now)
      ((needsRenewal config).bind
        (renewal.conclude config floor (renewal.pause floor (some (Instant.wait now threshold)))))
      held := by
  rw [iteration_eq]
  refine ((untilRefresh_leads hthreshold).bind _).append ?_
  simp only [Program.bind, hzero, if_true]
  exact (authenticated_leads hheld).bind _

theorem iteration_leads (renewal : Renewal) (hheld : held.isBlank = false)
    (hthreshold : held.threshold config.refreshMargin = some threshold)
    (hzero : (renewal.pause floor (some (Instant.wait now threshold))).isZero = true)
    (hdue : held.isExpired later config.refreshMargin = true) :
    (renewal.iteration config floor).Leads held (dueLooks held now later)
      (renewal.renew config floor) held :=
  (iteration_attends renewal hheld hthreshold hzero).append ((needsRenewal_leads hdue).bind _)

/-- A call for a token that finds none asks for a first one. -/
theorem getToken_asks {request : Wire.Request}
    (hrequest : config.grantRequest .app config.login.grant = .ok request) :
    ∃ next, (getToken config).run = .ask .lock (fun _ => .ask .credential next) ∧
      ∃ rest, next .blank = .ask (.send request) rest := by
  have hblank : Credential.blank.isBlank = true := by decide
  have hperform : (performAny config (some .acquire)).run =
      .ask (.send request) fun answer => settle (received .app answer) := by
    change (perform config .acquire).run = _
    rw [perform_run]
    simp only [Exchange.endpoint, Exchange.grant, hrequest]
  unfold getToken
  rw [Call.run_locked, Call.run_bind, exchangeForToken_run]
  refine ⟨_, rfl, ?_⟩
  simp only [hblank, if_true]
  change ∃ rest, ((performAny config (some .acquire)).run.bind _).bind _ = _
  rw [hperform]
  exact ⟨_, rfl⟩

theorem renew_asks (renewal : Renewal) (floor : Duration) (after : Duration → Program Unit)
    {request : Wire.Request}
    (hrequest : config.grantRequest .app config.login.grant = .ok request) :
    ∃ next, (renewal.renew config floor).bind after =
        .ask .lock (fun _ => .ask .credential next) ∧
      ∃ rest, next .blank = .ask (.send request) rest := by
  obtain ⟨next, hnext, rest, hrest⟩ := getToken_asks hrequest
  unfold renew
  rw [hnext]
  refine ⟨_, rfl, ?_⟩
  dsimp only
  rw [hrest]
  exact ⟨_, rfl⟩

/-- A caller that revokes a credential with a refresh token clears it after the request. -/
theorem revoke_asks {refreshToken : String} (hrefresh : held.refreshToken = some refreshToken)
    {request : Wire.Request}
    (hrequest : config.grantRequest .revoke (config.login.refreshGrant refreshToken) =
      .ok request) :
    ∃ next, Task.sequence config [.revoke] = .ask .lock (fun _ => .ask .credential next) ∧
      next held = .ask (.send request) fun _ => .ask (.replace .blank) fun _ =>
        .ask .unlock fun _ => .done () := by
  refine ⟨_, congrArg (Program.bind · _) (revoke_run config), ?_⟩
  simp only [hrefresh, hrequest]
  rfl

/-- A revocation that is under way while the task looks clears the credential before the task
gets the lock, and so the task asks for a first one.  The task may have looked at the token,
at what is left of it or at both. -/
theorem asks_cleared (renewal : Renewal) (floor : Duration) (iterations : Nat)
    (hgrant : config.CanGrant) {refreshToken : String}
    (hrefresh : held.refreshToken = some refreshToken)
    {early late : List Event} {middle : Program Duration}
    (hearly : (renewal.iteration config floor).Leads held early middle held)
    (hlate : middle.Leads .blank late (renewal.renew config floor) .blank)
    (hlooks : ∀ event ∈ early ++ late, event.query.Looks) :
    ∃ (trace : Trace (Option Unit)) (meeting : Meeting fun _ : Option Unit => Unit)
      (request : Wire.Request) (next : Except TransportFault Wire.Response → Program Unit),
      Run (opening (company renewal config (iterations + 1) floor fun _ => [.revoke]) held)
          trace meeting ∧
        (meeting.stances none).rest = .ask (.send request) next ∧
        meeting.credential = .blank ∧
        config.grantRequest .app config.login.grant = .ok request ∧
        trace.eventsOf none =
          early ++ late ++ [⟨.blank, .lock, ()⟩, ⟨.blank, .credential, .blank⟩] := by
  obtain ⟨request, hrequest⟩ := hgrant.grantRequest .app config.login.grant
  obtain ⟨revocation, hrevocation⟩ :=
    hgrant.grantRequest .revoke (config.login.refreshGrant refreshToken)
  obtain ⟨revoking, hrevoke, hrevokes⟩ := revoke_asks hrefresh hrevocation
  obtain ⟨renewing, hrenew, rest, hrenews⟩ :=
    renew_asks renewal floor (renewal.iterations config iterations) hrequest
  have hfirst := hearly.bind (renewal.iterations config iterations)
  have hsecond := hlate.bind (renewal.iterations config iterations)
  rw [List.forall_mem_append] at hlooks
  have hopened : Run
      (opening (company renewal config (iterations + 1) floor fun _ : Unit => [.revoke]) held)
      [] _ := .nil
  have hlocked := hopened.snoc
    (.ask (some ()) .lock (some (some ())) () (congrArg Stance.ready hrevoke) rfl
      ⟨rfl, rfl⟩ trivial)
  have hread := hlocked.snoc
    (.ask (some ()) .credential (some (some ())) held rfl rfl rfl rfl)
  have hsent := hread.snoc
    (.send (some ()) revocation (congrArg Stance.ready hrevokes))
  -- The task looks while the revocation waits for its answer.
  have hlooked := hsent.append (run_looks none hfirst hlooks.1 rfl).2
  have hfailed := hlooked.snoc (.receive (some ()) (.error Reading.silence) rfl)
  have hcleared := hfailed.snoc
    (.ask (some ()) (.replace .blank) (some (some ())) () rfl rfl rfl trivial)
  have hreleased := hcleared.snoc
    (.ask (some ()) .unlock none () rfl rfl ⟨rfl, rfl⟩ trivial)
  -- It goes on when the token that it saw is gone, and only now it gets the lock.
  have hattended := hreleased.append (run_looks none hsecond hlooks.2 rfl).2
  have htaken := hattended.snoc
    (.ask none .lock (some none) () (congrArg Stance.ready hrenew) rfl ⟨rfl, rfl⟩ trivial)
  have hfound := htaken.snoc
    (.ask none .credential (some none) .blank rfl rfl rfl rfl)
  refine ⟨_, _, request, rest, hfound, hrenews, rfl, hrequest, ?_⟩
  simp [Trace.eventsOf, List.filter_map, Function.comp_def, Query.leaves]

/-- The token is due, and the revocation has the lock while the task finds it so. -/
theorem revoked_meanwhile (renewal : Renewal) (floor : Duration) (iterations : Nat)
    (held : Credential) (now later : Instant) (hgrant : config.CanGrant)
    {refreshToken : String} (hrefresh : held.refreshToken = some refreshToken)
    (hheld : held.isBlank = false)
    (hthreshold : held.threshold config.refreshMargin = some threshold)
    (hzero : (renewal.pause floor (some (Instant.wait now threshold))).isZero = true)
    (hdue : held.isExpired later config.refreshMargin = true) :
    ∃ (trace : Trace (Option Unit)) (meeting : Meeting fun _ : Option Unit => Unit)
      (request : Wire.Request) (next : Except TransportFault Wire.Response → Program Unit),
      Run (opening (company renewal config (iterations + 1) floor fun _ => [.revoke]) held)
          trace meeting ∧
        (meeting.stances none).rest = .ask (.send request) next ∧
        meeting.credential = .blank ∧
        config.grantRequest .app config.login.grant = .ok request := by
  have hearly := iteration_leads renewal hheld hthreshold hzero hdue
  have hlooks : ∀ event ∈ dueLooks held now later ++ [], event.query.Looks := by
    simp [dueLooks, Query.Looks]
  obtain ⟨trace, meeting, request, next, hrun, hrest, hblank, hrequest, -⟩ :=
    asks_cleared renewal floor iterations hgrant hrefresh hearly .nil hlooks
  exact ⟨trace, meeting, request, next, hrun, hrest, hblank, hrequest⟩

end Due

/-! ## What the task sends -/

/-- Whatever the callers do meanwhile, each request of the task is owed to what is stored
when it is sent, and the task has seen a token since it last slept.  Where no token is
stored any more a caller has revoked it after that. -/
theorem request_owed
    (hrun : Run (opening (company renewal config iterations floor tasks) start)
      trace meeting) {request : Wire.Request}
    {next : Except TransportFault Wire.Response → Program Unit}
    (hrest : (meeting.stances none).rest = .ask (.send request) next) :
    meeting.holder = some none ∧ config.Owes meeting.credential request ∧
      Seen tasks trace meeting.credential := by
  obtain ⟨watches, hwatched, hknows⟩ := Attended.of_run hrun
  obtain ⟨hholds, credential, hinformed, howed⟩ := hwatched.allows hrest
  rw [hinformed] at hknows
  obtain ⟨hseen, rfl⟩ := hknows
  exact ⟨(hwatched.holds none).1 hholds, howed, hseen⟩

/-- The request of the task finds the credential cleared that the task has seen. -/
theorem request_owed_revoked :
    let config : Config :=
      { apiUrl := "https://api.test", login := ⟨"user", "secret", "id", "key"⟩ }
    let held : Credential := ⟨"first", some .epoch, some "again", some .epoch⟩
    let tasks : Unit → List Task := fun _ => [.revoke]
    ∃ trace meeting request next,
      Run (opening (company {} config 1 .zero tasks) held) trace meeting ∧
        (meeting.stances none).rest = .ask (.send request) next ∧
        meeting.holder = some none ∧ config.Owes meeting.credential request ∧
        Seen tasks trace meeting.credential := by
  intro config held tasks
  have hgrant : config.CanGrant :=
    Config.canGrant_of_validOctets (by decide +kernel +zetaReduce)
  obtain ⟨trace, meeting, request, next, hrun, hrest, -, -⟩ :=
    revoked_meanwhile {} .zero 0 held .epoch .epoch hgrant rfl (by decide) rfl (by decide)
      (by decide)
  exact ⟨trace, meeting, request, next, hrun, hrest, request_owed hrun hrest⟩

/-- A client is logged in again that was revoked while its task came for the lock. -/
theorem acquires_revoked :
    let config : Config :=
      { apiUrl := "https://api.test", login := ⟨"user", "secret", "id", "key"⟩ }
    let held : Credential := ⟨"first", some .epoch, some "again", some .epoch⟩
    let tasks : Unit → List Task := fun _ => [.revoke]
    ∃ trace meeting request next,
      Run (opening (company {} config 1 .zero tasks) held) trace meeting ∧
        (meeting.stances none).rest = .ask (.send request) next ∧
        meeting.credential.isBlank = true ∧
        config.grantRequest .app config.login.grant = .ok request := by
  intro config held tasks
  have hgrant : config.CanGrant :=
    Config.canGrant_of_validOctets (by decide +kernel +zetaReduce)
  obtain ⟨trace, meeting, request, next, hrun, hrest, hblank, hrequest⟩ :=
    revoked_meanwhile {} .zero 0 held .epoch .epoch hgrant rfl (by decide) rfl (by decide)
      (by decide)
  exact ⟨trace, meeting, request, next, hrun, hrest, hblank ▸ rfl, hrequest⟩

end Meetings
end Renewal
end BearerClient
