import BearerClient.Proofs.Credential.Complete
import BearerClient.Proofs.Delivery.Round
import BearerClient.Proofs.Store.Exchange

/-!
# What operations keep

All that an operation other than a revocation does to the store is made of few
things: questions that change nothing, exchanges that are due, and the delivery
of calls with the stored token.  A property of the stored credential and of the
events so far that each of these keeps is kept by every such operation, however
many attempts it makes and wherever it fails.
-/

namespace BearerClient

/-- The question neither changes the stored credential nor sends anything. -/
def Query.IsIdle : Query → Prop
  | .replace _ | .send _ => False
  | _ => True

/-- The exchange may be carried out while a credential is stored: only its own
refresh token renews it. -/
def Exchange.Suits (stored : Credential) : Exchange → Prop
  | .acquire => True
  | .renew refreshToken => stored.refreshToken = some refreshToken

theorem Exchange.renewal_suits (stored : Credential) :
    (Exchange.renewal stored).Suits stored := by
  unfold Exchange.renewal
  cases hrefresh : stored.refreshToken with
  | none => trivial
  | some refreshToken => exact hrefresh

/-- What a decision for an exchange has to see to: an exchange that may be
carried out, or that a token is stored. -/
def Exchange.SuitsAny (stored : Credential) : Option Exchange → Prop
  | some exchange => exchange.Suits stored
  | none => stored.isBlank = false

/-- The invariant holds at the end, and the result fits what is stored. -/
def Rests {α : Type} (inv : List Event → Credential → Prop)
    (fits : Credential → α → Prop) : Ends (Except Failure α) :=
  fun log stored result =>
    inv log stored ∧ ∀ a, result = some (.ok a) → fits stored a

section Rests

variable {α β : Type} {asks : Asks} {inv : List Event → Credential → Prop}
  {log : List Event} {stored : Credential}

theorem Rests.bind {call : Call α} {f : α → Call β}
    {fits' : Credential → β → Prop} (fits : Credential → α → Prop)
    (hcall : call.run.Obeys asks (Rests inv fits) log stored)
    (hnext : ∀ log stored a, inv log stored → fits stored a →
      (f a).run.Obeys asks (Rests inv fits') log stored) :
    (call >>= f).run.Obeys asks (Rests inv fits') log stored := by
  rw [Call.obeys_bind]
  apply hcall.mono (fun _ _ _ hask => hask)
  intro log stored result hrests
  obtain ⟨hinv, hfits⟩ := hrests
  rcases result with _ | failure | a
  · exact ⟨hinv, by simp⟩
  · exact ⟨hinv, by simp⟩
  · exact hnext log stored a hinv (hfits a rfl)

/-- The failures of a call that is looked at do not end what follows. -/
theorem Rests.caught {call : Call α} {f : Except Failure α → Call β}
    {fits : Credential → β → Prop}
    (hcall : call.run.Obeys asks (Rests inv fun _ _ => True) log stored)
    (hnext : ∀ log stored result, inv log stored →
      (f result).run.Obeys asks (Rests inv fits) log stored) :
    (ExceptT.lift call.run >>= f : Call β).run.Obeys asks (Rests inv fits)
      log stored := by
  rw [ExceptT.run_bind_lift]
  refine Program.obeys_bind.2 (hcall.mono (fun _ _ _ hask => hask) ?_)
  intro log stored result hrests
  cases result with
  | none => exact ⟨hrests.1, by simp⟩
  | some result => exact hnext log stored result hrests.1

theorem Rests.pure {a : α} {fits : Credential → α → Prop}
    (hinv : inv log stored) (hfits : fits stored a) :
    (Pure.pure a : Call α).run.Obeys asks (Rests inv fits) log stored := by
  refine ⟨hinv, fun b hb => ?_⟩
  simp only [Option.some.injEq, Except.ok.injEq] at hb
  exact hb ▸ hfits

theorem Rests.throw {failure : Failure} {fits : Credential → α → Prop}
    (hinv : inv log stored) :
    (MonadExcept.throw failure : Call α).run.Obeys asks (Rests inv fits)
      log stored :=
  ⟨hinv, by simp⟩

theorem Rests.abort {fits : Credential → α → Prop} (hinv : inv log stored) :
    (Call.abort : Call α).run.Obeys asks (Rests inv fits) log stored :=
  ⟨hinv, by simp⟩

theorem Rests.decided {decided : Except Failure α}
    {fits : Credential → α → Prop} (hinv : inv log stored)
    (hfits : ∀ a, decided = .ok a → fits stored a) :
    (decided : Call α).run.Obeys asks (Rests inv fits) log stored := by
  refine ⟨hinv, fun a ha => hfits a ?_⟩
  simpa using ha

theorem Rests.map {call : Call α} {f : α → β} {fits : Credential → α → Prop}
    (hcall : call.run.Obeys asks (Rests inv fits) log stored) :
    (f <$> call).run.Obeys asks (Rests inv fun _ _ => True) log stored := by
  rw [map_eq_pure_bind]
  exact Rests.bind fits hcall fun _ _ _ hinv _ => Rests.pure hinv trivial

/-- What an answer to an exchange leads to keeps the invariant if the reading of the
clock does and the credential that is issued, which is complete. -/
theorem Rests.settle {received : Except Failure TokenAnswer} (hinv : inv log stored)
    (hnow : asks log stored .now)
    (hread : ∀ now, inv (log ++ [⟨stored, .now, now⟩]) stored)
    (hissued : ∀ now credential, credential.Complete →
      asks (log ++ [⟨stored, .now, now⟩]) stored (.replace credential) ∧
        inv (log ++ [⟨stored, .now, now⟩] ++
          [⟨stored, .replace credential, ()⟩]) credential) :
    (Store.settle received).Obeys asks
      (Rests inv fun stored _ => stored.isBlank = false) log stored := by
  refine Store.obeys_settle (fun _ _ => ⟨hinv, by simp⟩) (fun _ _ => hnow)
    (fun _ now _ _ _ => ⟨hread now, by simp⟩) ?_
  intro answer now credential _ hcredential
  have hcomplete := Credential.ofAnswer_complete hcredential
  obtain ⟨hreplace, hwritten⟩ := hissued now credential hcomplete
  exact ⟨hreplace, hwritten, fun _ _ => hcomplete.token⟩

end Rests

/-- Whatever URL the path of the call leads to is a target. -/
def ApiCall.AimsAt (call : ApiCall) (config : Config) (targets : String → Prop) :
    Prop :=
  ∀ url, config.requestUrl call.path = .ok url → targets url

theorem ApiCall.AimsAt.withMaxRetries {call : ApiCall} {config : Config}
    {targets : String → Prop} (haims : call.AimsAt config targets) (retries : UInt32) :
    (call.withMaxRetries retries).AimsAt config targets :=
  haims

/-- Nothing that an operation other than a revocation does to the store breaks
the invariant, as long as its calls go to the targets. -/
structure Kept (config : Config) (targets : String → Prop) (asks : Asks)
    (inv : List Event → Credential → Prop) : Prop where
  idle : ∀ {log stored} (query : Query), inv log stored → query.IsIdle →
    asks log stored query ∧
      ∀ answer, query.Allows stored answer →
        inv (log ++ [⟨stored, query, answer⟩]) stored
  exchange : ∀ {log stored} (exchange : Exchange), inv log stored →
    exchange.Suits stored →
      (Store.perform config exchange).run.Obeys asks
        (Rests inv fun stored _ => stored.isBlank = false) log stored
  deliver : ∀ {log stored} (call : ApiCall) (url : String)
      (request : Wire.Request), inv log stored → stored.isBlank = false →
    targets url → call.assemble config url stored.token = .ok request →
      asks log stored (.send request) ∧
        ∀ answer, inv (log ++ [⟨stored, .send request, answer⟩]) stored

namespace Kept

variable {config : Config} {targets : String → Prop} {asks : Asks}
  {inv : List Event → Credential → Prop} {log : List Event}
  {stored : Credential} {α : Type}

theorem locked (hkept : Kept config targets asks inv) {call : Call α}
    {fits : Credential → α → Prop} (hinv : inv log stored)
    (hcall : ∀ log, inv log stored →
      call.run.Obeys asks (Rests inv fits) log stored) :
    (Call.locked call).run.Obeys asks (Rests inv fits) log stored := by
  obtain ⟨hlock, hlocked⟩ := hkept.idle .lock hinv trivial
  rw [Call.obeys_locked]
  refine ⟨hlock, ?_⟩
  apply (hcall _ (hlocked () trivial)).mono (fun _ _ _ hask => hask)
  intro log stored result hrests
  obtain ⟨hinv, hfits⟩ := hrests
  cases result with
  | none => exact ⟨hinv, by simp⟩
  | some result =>
      obtain ⟨hunlock, hunlocked⟩ := hkept.idle .unlock hinv trivial
      exact ⟨hunlock, hunlocked () trivial, hfits⟩

theorem decision (hkept : Kept config targets asks inv) (hinv : inv log stored)
    (due : Credential → Instant → Bool) :
    (Store.decision due).Obeys asks (Rests inv Exchange.SuitsAny)
      log stored := by
  obtain ⟨hlook, hlooked⟩ := hkept.idle .credential hinv trivial
  have hinv := hlooked stored rfl
  obtain ⟨hnow, htimed⟩ := hkept.idle .now hinv trivial
  refine Store.obeys_decision hlook ?_ (fun _ => hnow) ?_
  · intro _
    refine ⟨hinv, fun exchange hexchange => ?_⟩
    cases hexchange
    trivial
  · intro now hheld
    refine ⟨htimed now trivial, fun exchange hexchange => ?_⟩
    cases hexchange
    by_cases hdue : due stored now = true
    · rw [if_pos hdue]
      exact Exchange.renewal_suits stored
    · rw [if_neg hdue]
      exact hheld

theorem performAny (hkept : Kept config targets asks inv) (hinv : inv log stored)
    {exchange : Option Exchange} (hsuits : Exchange.SuitsAny stored exchange) :
    (Store.performAny config exchange).run.Obeys asks
      (Rests inv fun stored _ => stored.isBlank = false) log stored := by
  cases exchange with
  | none => exact Rests.pure hinv hsuits
  | some exchange => exact hkept.exchange exchange hinv hsuits

/-- The token that is handed out is the stored one, and not blank. -/
theorem getToken (hkept : Kept config targets asks inv) (hinv : inv log stored) :
    (Store.getToken config).run.Obeys asks
      (Rests inv fun stored token =>
        token = stored.token ∧ stored.isBlank = false) log stored := by
  apply hkept.locked hinv
  intro log hinv
  have hdecision : (Store.exchangeForToken config).run.Obeys asks
      (Rests inv Exchange.SuitsAny) log stored := by
    rw [Store.exchangeForToken_run]
    exact hkept.decision hinv _
  apply Rests.bind _ hdecision
  intro log stored exchange hinv hsuits
  apply Rests.bind _ (hkept.performAny hinv hsuits)
  intro log stored _ hinv hheld
  obtain ⟨hlook, hlooked⟩ := hkept.idle .credential hinv trivial
  refine ⟨hlook, fun answer hanswer => ?_⟩
  cases hanswer
  exact Rests.pure (hlooked stored rfl) ⟨rfl, hheld⟩

theorem refresh (hkept : Kept config targets asks inv) (hinv : inv log stored) :
    (Store.refresh config).run.Obeys asks
      (Rests inv fun stored _ => stored.isBlank = false) log stored := by
  apply hkept.locked hinv
  intro log hinv
  have hdecision : (Store.exchangeForRefresh config).run.Obeys asks
      (Rests inv Exchange.SuitsAny) log stored := by
    rw [Store.exchangeForRefresh_run]
    exact hkept.decision hinv _
  apply Rests.bind _ hdecision
  intro log stored exchange hinv hsuits
  exact hkept.performAny hinv hsuits

theorem acquire (hkept : Kept config targets asks inv) (hinv : inv log stored) :
    (Store.acquire config).run.Obeys asks
      (Rests inv fun stored _ => stored.isBlank = false) log stored :=
  hkept.locked hinv fun _ hinv => hkept.exchange .acquire hinv trivial

/-! ## Delivery -/

theorem attempt (hkept : Kept config targets asks inv) (hinv : inv log stored)
    (call : ApiCall) {url : String}
    (htarget : targets url) (retriesLeft : Nat) :
    (Delivery.attempt config call url retriesLeft).run.Obeys asks
      (Rests inv fun _ _ => True) log stored := by
  apply Rests.bind _ (hkept.getToken hinv)
  intro log stored token hinv htoken
  obtain ⟨rfl, hheld⟩ := htoken
  apply Rests.bind (fun stored request =>
      stored.isBlank = false ∧ call.assemble config url stored.token = .ok request)
    (Rests.decided hinv fun _ h => ⟨hheld, h⟩)
  intro log stored request hinv hrequest
  obtain ⟨hheld, hassembled⟩ := hrequest
  obtain ⟨hsend, hsent⟩ :=
    hkept.deliver call url request hinv hheld htarget hassembled
  rw [Call.run_send_bind]
  refine ⟨hsend, fun answer _ => ?_⟩
  have hinv := hsent answer
  cases answer with
  | error source => exact ⟨hinv, by simp⟩
  | ok response => exact Rests.pure hinv trivial

theorem refreshed (hkept : Kept config targets asks inv) (hinv : inv log stored)
    {rest : Call α}
    (hrest : ∀ {log stored}, inv log stored →
      rest.run.Obeys asks (Rests inv fun _ _ => True) log stored) :
    (Store.refresh config >>= fun _ => rest).run.Obeys asks
      (Rests inv fun _ _ => True) log stored :=
  Rests.bind _ (hkept.refresh hinv) fun _ _ _ hinv _ => hrest hinv

theorem round (hkept : Kept config targets asks inv) (hinv : inv log stored)
    (call : ApiCall) {url : String}
    (htarget : targets url) (retriesLeft : Nat)
    {rest : Call Reply}
    (hrest : ∀ {log stored}, inv log stored →
      rest.run.Obeys asks (Rests inv fun _ _ => True) log stored) :
    (Delivery.round config call url retriesLeft rest).run.Obeys asks
      (Rests inv fun _ _ => True) log stored := by
  apply Rests.bind _ (hkept.attempt hinv call htarget retriesLeft)
  intro log stored outcome hinv _
  cases outcome with
  | success reply => exact Rests.pure hinv trivial
  | fatal failure => exact Rests.throw hinv
  | retryable details => exact hkept.refreshed hinv hrest

theorem attempts (hkept : Kept config targets asks inv) (hinv : inv log stored)
    (call : ApiCall) {url : String}
    (htarget : targets url)
    (retriesLeft attempted : Nat) :
    (Delivery.attempts config call url retriesLeft attempted).run.Obeys asks
      (Rests inv fun _ _ => True) log stored := by
  -- The rest of the rounds finds another credential stored than the first one.
  have hattempts : ∀ {log stored}, inv log stored →
      (Delivery.attempts config call url retriesLeft attempted).run.Obeys asks
        (Rests inv fun _ _ => True) log stored :=
    Delivery.attempts_induction
      (motive := fun _ rest => ∀ {log stored}, inv log stored →
        rest.run.Obeys asks (Rests inv fun _ _ => True) log stored)
      (fun _ _ _ hinv => Rests.abort hinv)
      (fun hinv => hkept.round hinv call htarget 0 Rests.abort)
      (fun _ _ hrest _ _ hinv => hkept.round hinv call htarget _ hrest) retriesLeft attempted
  exact hattempts hinv

theorem execute (hkept : Kept config targets asks inv) (hinv : inv log stored)
    {call : ApiCall} (haims : call.AimsAt config targets) :
    (Delivery.execute config call).run.Obeys asks (Rests inv fun _ _ => True)
      log stored :=
  Rests.bind (fun _ url => targets url)
    (Rests.decided hinv fun _ hurl =>
      haims _ (ApiCall.requestUrl_of_repeatableTarget hurl))
    fun _ _ _ hinv htarget => hkept.attempts hinv call htarget _ 0

theorem dispatch (hkept : Kept config targets asks inv) (hinv : inv log stored)
    {call : ApiCall} (haims : call.AimsAt config targets) :
    (Delivery.dispatch config call).run.Obeys asks (Rests inv fun _ _ => True)
      log stored := by
  apply Rests.bind (fun _ url => targets url)
    (Rests.decided hinv fun _ hurl => haims _ (ApiCall.requestUrl_of_target hurl))
  intro log stored url hinv htarget
  apply Rests.bind _ (hkept.attempt hinv call htarget _)
  intro log stored outcome hinv _
  cases outcome with
  | success reply => exact Rests.pure hinv trivial
  | fatal failure => exact Rests.throw hinv
  | retryable details => exact Rests.throw hinv

theorem dispatchRound (hkept : Kept config targets asks inv) (hinv : inv log stored)
    {call : ApiCall} (haims : call.AimsAt config targets) (remaining : Nat)
    {rest : Call Reply}
    (hrest : ∀ {log stored}, inv log stored →
      rest.run.Obeys asks (Rests inv fun _ _ => True) log stored) :
    (Client.round config call remaining rest).run.Obeys asks
      (Rests inv fun _ _ => True) log stored := by
  apply Rests.caught (hkept.dispatch hinv (haims.withMaxRetries _))
  intro log stored result hinv
  cases result with
  | ok reply => exact Rests.pure hinv trivial
  | error failure =>
      simp only
      split
      · exact hkept.refreshed hinv hrest
      · exact Rests.throw hinv

theorem dispatches (hkept : Kept config targets asks inv) (hinv : inv log stored)
    {call : ApiCall} (haims : call.AimsAt config targets) (remaining : Nat) :
    (Client.dispatches config call remaining).run.Obeys asks
      (Rests inv fun _ _ => True) log stored := by
  have hdispatches : ∀ {log stored}, inv log stored →
      (Client.dispatches config call remaining).run.Obeys asks
        (Rests inv fun _ _ => True) log stored :=
    Client.dispatches_induction
      (motive := fun _ rest => ∀ {log stored}, inv log stored →
        rest.run.Obeys asks (Rests inv fun _ _ => True) log stored)
      (fun hinv => hkept.dispatchRound hinv haims 0 Rests.abort)
      (fun _ _ hrest _ _ hinv => hkept.dispatchRound hinv haims _ hrest) remaining
  exact hdispatches hinv

theorem send (hkept : Kept config targets asks inv) (hinv : inv log stored)
    {call : ApiCall} (haims : call.AimsAt config targets) :
    (Client.send config call).run.Obeys asks (Rests inv fun _ _ => True)
      log stored := by
  unfold Client.send
  split
  · exact hkept.dispatch hinv (haims.withMaxRetries 0)
  · rename_i copied hcopy
    refine hkept.dispatches hinv ?_ _
    obtain ⟨body, -, rfl⟩ := Option.map_eq_some_iff.1 hcopy
    exact haims

end Kept

/-- The call that the operation makes. -/
def Operation.call? : Operation → Option ApiCall
  | .execute call | .dispatch call | .cancellable call _ | .send call => some call
  | _ => none

/-- The operation makes a call, whose path leads to the URL. -/
def Operation.Targets (operation : Operation) (config : Config) (url : String) : Prop :=
  ∃ call, operation.call? = some call ∧ config.requestUrl call.path = .ok url

/-- The operation is not given up before its end. -/
def Operation.RunsToEnd : Operation → Prop
  | .cancellable _ (some _) => False
  | _ => True

theorem Operation.eq_cancellable {operation : Operation}
    (hruns : ¬operation.RunsToEnd) :
    ∃ call questions, operation = .cancellable call (some questions) := by
  cases operation with
  | cancellable call cancelled =>
      cases cancelled with
      | none => exact absurd trivial hruns
      | some questions => exact ⟨call, questions, rfl⟩
  | _ => exact absurd trivial hruns

namespace Kept

variable {config : Config} {targets : String → Prop} {asks : Asks}
  {inv : List Event → Credential → Prop} {log : List Event}
  {stored : Credential}

theorem perform (hkept : Kept config targets asks inv) (hinv : inv log stored)
    (operation : Operation) (hruns : operation.RunsToEnd)
    (hrevoke : operation ≠ .revoke)
    (htargets : ∀ url, operation.Targets config url → targets url) :
    (operation.perform config).run.Obeys asks (Rests inv fun _ _ => True)
      log stored := by
  have haims (call : ApiCall) (hcall : operation.call? = some call) :
      call.AimsAt config targets := fun url hurl => htargets url ⟨call, hcall, hurl⟩
  cases operation with
  | getToken => exact Rests.map (hkept.getToken hinv)
  | refresh => exact Rests.map (hkept.refresh hinv)
  | acquire => exact Rests.map (hkept.acquire hinv)
  | revoke => exact absurd rfl hrevoke
  | execute call => exact Rests.map (hkept.execute hinv (haims call rfl))
  | dispatch call => exact Rests.map (hkept.dispatch hinv (haims call rfl))
  | cancellable call cancelled =>
      cases cancelled with
      | none => exact Rests.map (hkept.dispatch hinv (haims call rfl))
      | some questions => exact hruns.elim
  | send call => exact Rests.map (hkept.send hinv (haims call rfl))

/-- A revocation keeps the invariant if its request does and a blank credential in the
end. -/
theorem revoke (hkept : Kept config targets asks inv) (hinv : inv log stored)
    (hsend : ∀ {log refreshToken request}, inv log stored →
      stored.refreshToken = some refreshToken →
      config.grantRequest .revoke (config.login.refreshGrant refreshToken) =
          .ok request →
        asks log stored (.send request) ∧
          ∀ answer, inv (log ++ [⟨stored, .send request, answer⟩]) stored)
    (hclear : ∀ {log}, inv log stored → asks log stored (.replace .blank) ∧
      inv (log ++ [⟨stored, .replace .blank, ()⟩]) .blank) :
    (Store.revoke config).run.Obeys asks (Rests inv fun _ _ => True) log stored := by
  have hreleased {log stored} (result : Except Failure Unit) (hinv : inv log stored) :
      (Program.ask .unlock fun _ => .done result).Obeys asks
        (Rests inv fun _ _ => True) log stored := by
    obtain ⟨hunlock, hunlocked⟩ := hkept.idle .unlock hinv trivial
    exact ⟨hunlock, fun _ _ => ⟨hunlocked () trivial, by simp⟩⟩
  have hcleared {log} (result : Except Failure Unit) (hinv : inv log stored) :
      (Program.ask (.replace .blank) fun _ => .ask .unlock fun _ =>
        .done result).Obeys asks (Rests inv fun _ _ => True) log stored := by
    obtain ⟨hreplace, hblank⟩ := hclear hinv
    exact ⟨hreplace, fun _ _ => hreleased result hblank⟩
  rw [Store.revoke_run]
  obtain ⟨hlock, hlocked⟩ := hkept.idle .lock hinv trivial
  refine ⟨hlock, fun _ _ => ?_⟩
  obtain ⟨hlook, hlooked⟩ := hkept.idle .credential (hlocked () trivial) trivial
  refine ⟨hlook, fun answer hanswer => ?_⟩
  cases hanswer
  have hinv := hlooked stored rfl
  dsimp only [Query.leaves]
  cases hrefresh : stored.refreshToken with
  | none => exact hcleared _ hinv
  | some refreshToken =>
      simp only
      cases hrequest : config.grantRequest .revoke
          (config.login.refreshGrant refreshToken) with
      | error failure => exact hreleased _ hinv
      | ok request =>
          obtain ⟨hask, hsent⟩ := hsend hinv hrefresh hrequest
          exact ⟨hask, fun answer _ => hcleared _ (hsent answer)⟩

/-- A dispatch that is given up keeps what each of its questions keeps. -/
theorem cancelled (hkept : Kept config targets asks inv) (hinv : inv log stored)
    (hasks : ∀ log stored query answer, asks log stored query →
      query.Allows stored answer →
        inv (log ++ [⟨stored, query, answer⟩]) (query.leaves stored))
    {call : ApiCall} (haims : call.AimsAt config targets) (questions : Nat) :
    (Delivery.dispatchUnlessCancelled config call (some questions)).run.Obeys
      asks (Rests inv fun _ _ => True) log stored := by
  have hdispatch : (Delivery.dispatch config call).run.Obeys asks
      (Rests inv fun _ _ => True) log stored := hkept.dispatch hinv haims
  have hcut := hdispatch.cutOff inv questions hinv hasks
  refine Program.obeys_bind.2 (hcut.mono (fun _ _ _ hask => hask) ?_)
  intro log stored result hinv
  cases result with
  | none => exact ⟨hinv, by simp⟩
  | some result => exact ⟨hinv, by simp⟩

/-- All operations keep what a revocation and each single question keep too. -/
theorem performAll (hkept : Kept config targets asks inv) (hinv : inv log stored)
    (hrevoke : (Store.revoke config).run.Obeys asks (Rests inv fun _ _ => True)
      log stored)
    (hasks : ∀ log stored query answer, asks log stored query →
      query.Allows stored answer →
        inv (log ++ [⟨stored, query, answer⟩]) (query.leaves stored))
    (operation : Operation)
    (htargets : ∀ url, operation.Targets config url → targets url) :
    (operation.perform config).run.Obeys asks (Rests inv fun _ _ => True)
      log stored := by
  by_cases hrevokes : operation = .revoke
  · subst hrevokes
    exact Rests.map hrevoke
  by_cases hruns : operation.RunsToEnd
  · exact hkept.perform hinv operation hruns hrevokes htargets
  · obtain ⟨call, questions, rfl⟩ := Operation.eq_cancellable hruns
    exact Rests.map (hkept.cancelled hinv hasks
      (fun url hurl => htargets url ⟨call, rfl, hurl⟩) questions)

end Kept
end BearerClient
