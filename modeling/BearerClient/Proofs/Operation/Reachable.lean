import BearerClient.Proofs.Meeting.Turns
import BearerClient.Proofs.Operation.Completeness
import BearerClient.Proofs.Operation.Questions

/-!
# What can come to be stored

A credential can come to be stored if some operation writes it, whatever the operation is
answered on the way there, also by the store that others write to at the same time.  So it takes
in all that is stored at any moment of a session or of a meeting, and it is blank or complete:
an exchange writes what it was issued, a revocation clears it, and a delivery writes nothing but
by the exchanges that it makes.
-/

namespace BearerClient

variable {config : Config} {good : Credential → Prop}

/-! ## What operations write -/

namespace Store

section Exchanges

variable (hgood : ∀ credential, credential.Complete → good credential)
include hgood

theorem settle_writesOnly (received : Except Failure TokenAnswer) :
    (settle received).AsksOnly (Query.WritesOnly good) := by
  cases received with
  | error failure => trivial
  | ok answer =>
      refine ⟨trivial, fun now => ?_⟩
      cases hissued : Credential.ofAnswer answer now with
      | error failure =>
          simp only [hissued]
          trivial
      | ok credential =>
          simp only [hissued]
          exact ⟨hgood credential (Credential.ofAnswer_complete hissued), fun _ => trivial⟩

theorem perform_writesOnly (exchange : Exchange) :
    (perform config exchange).run.AsksOnly (Query.WritesOnly good) := by
  rw [perform_run]
  cases config.grantRequest exchange.endpoint (exchange.grant config.login) with
  | error failure => trivial
  | ok request => exact ⟨trivial, fun _ => settle_writesOnly hgood _⟩

/-- What was decided is carried out; to decide it nothing is written. -/
theorem decided_writesOnly {due : Credential → Instant → Bool}
    {decide : Call (Option Exchange)} (hdecide : decide.run = decision due) :
    (decide >>= performAny config).run.AsksOnly (Query.WritesOnly good) := by
  refine Call.asksOnly_bind ?_ fun exchange => ?_
  · rw [hdecide]
    refine ⟨trivial, fun credential => ?_⟩
    by_cases hblank : credential.isBlank = true
    · simp only [hblank, if_true]
      trivial
    · simp only [hblank]
      exact ⟨trivial, fun _ => trivial⟩
  · cases exchange with
    | none => trivial
    | some exchange => exact perform_writesOnly hgood exchange

theorem getToken_writesOnly : (getToken config).run.AsksOnly (Query.WritesOnly good) := by
  have hbody : (exchangeForToken config >>= fun exchange =>
      performAny config exchange >>= fun _ =>
        Call.ask .credential >>= fun credential => pure credential.token).run.AsksOnly
          (Query.WritesOnly good) := by
    rw [← bind_assoc]
    refine Call.asksOnly_bind (decided_writesOnly hgood (exchangeForToken_run config)) ?_
    exact fun _ => ⟨trivial, fun _ => trivial⟩
  exact Call.asksOnly_locked trivial trivial hbody

theorem refresh_writesOnly : (refresh config).run.AsksOnly (Query.WritesOnly good) :=
  Call.asksOnly_locked trivial trivial
    (decided_writesOnly hgood (exchangeForRefresh_run config))

end Exchanges

theorem revoke_writesOnly (hblank : good .blank) :
    (revoke config).run.AsksOnly (Query.WritesOnly good) := by
  rw [revoke_run]
  refine ⟨trivial, fun _ => ⟨trivial, fun credential => ?_⟩⟩
  dsimp only
  cases Credential.refreshToken credential with
  | none => exact ⟨hblank, fun _ => ⟨trivial, fun _ => trivial⟩⟩
  | some refreshToken =>
      dsimp only
      cases config.grantRequest .revoke (config.login.refreshGrant refreshToken) with
      | error failure => exact ⟨trivial, fun _ => trivial⟩
      | ok request =>
          exact ⟨trivial, fun _ => ⟨hblank, fun _ => ⟨trivial, fun _ => trivial⟩⟩⟩

end Store

/-- An operation writes whole credentials, whatever it is answered. -/
theorem Operation.perform_writesOnly (operation : Operation) :
    (operation.perform config).run.AsksOnly (Query.WritesOnly Credential.BlankOrComplete) := by
  have hwhole : ∀ credential : Credential, credential.Complete → credential.BlankOrComplete :=
    fun _ => .inr
  have hcall {call : ApiCall} (hoperation : operation.call? = some call) :
      (operation.perform config).run.AsksOnly (Query.WritesOnly Credential.BlankOrComplete) :=
    perform_asksOnly (Store.getToken_writesOnly hwhole) (Store.refresh_writesOnly hwhole)
      (fun _ _ _ _ _ => trivial) hoperation
  cases operation with
  | getToken => exact Call.asksOnly_map (Store.getToken_writesOnly hwhole)
  | refresh => exact Call.asksOnly_map (Store.refresh_writesOnly hwhole)
  | acquire =>
      exact Call.asksOnly_map
        (Call.asksOnly_locked trivial trivial (Store.perform_writesOnly hwhole .acquire))
  | revoke => exact Call.asksOnly_map (Store.revoke_writesOnly (.inl rfl))
  | execute call | dispatch call | cancellable call cancelled | send call => exact hcall rfl

/-! ## What is reached -/

namespace Store

/-- The credential can come to be stored: none is at first, and any that some operation writes,
whatever it is answered. -/
inductive Reachable (config : Config) : Credential → Prop where
  | start : Reachable config .blank
  | written (operation : Operation) {events : List Event}
      {result : Option (Except Failure Operation.Result)} {stored credential : Credential}
      (hcourse : (operation.perform config).run.Course events result)
      (hwrites : ⟨stored, .replace credential, ()⟩ ∈ events) : Reachable config credential

theorem Reachable.blankOrComplete {credential : Credential}
    (hreachable : Reachable config credential) : credential.BlankOrComplete := by
  cases hreachable with
  | start => exact .inl rfl
  | written operation hcourse hwrites =>
      exact operation.perform_writesOnly.of_mem_course hcourse hwrites

theorem writesOnly_reachable (operation : Operation) :
    (operation.perform config).run.AsksOnly (Query.WritesOnly (Reachable config)) := by
  refine Program.asksOnly_of_course fun events result hcourse event hevent => ?_
  obtain ⟨stored, query, answer⟩ := event
  cases query with
  | replace written => exact .written operation hcourse hevent
  | _ => trivial

/-- Whatever is stored at some moment of a session is reachable. -/
theorem reachable_of_stores {σ : Type} {backend : Backend σ} {operations : List Operation}
    {outside : σ} {credential : Credential}
    (hstores : Session.Stores config backend operations { outside } credential) :
    Reachable config credential := by
  obtain ⟨hfinal, hasks⟩ := Session.invariant config backend operations
    { outside } (fun _ _ stored _ => Reachable config stored)
    (fun _ stored => Reachable config stored) [] .start
    fun operation _ _ _ hstored => (writesOnly_reachable operation).obeys hstored
  rcases hstores with rfl | ⟨entry, hmember, rfl⟩
  · exact hfinal
  · obtain ⟨before, after, hsplit⟩ := List.append_of_mem hmember
    exact hasks before entry.1 entry.2 after hsplit

end Store

/-- Some operations, one after another. -/
def Operation.sequence (config : Config) : List Operation → Program Unit
  | [] => .done ()
  | operation :: rest => (operation.perform config).run.bind fun _ => sequence config rest

theorem Operation.sequence_writesOnly (operations : List Operation) :
    (Operation.sequence config operations).AsksOnly
      (Query.WritesOnly (Store.Reachable config)) := by
  induction operations with
  | nil => trivial
  | cons operation rest ih => exact (Store.writesOnly_reachable operation).bind fun _ => ih

namespace Meeting

variable {ι : Type} {α : ι → Type} [DecidableEq ι] {meeting final : Meeting α}

/-- What is stored is good, and so is all that the parties have still to write. -/
structure KeepsGood (good : Credential → Prop) (meeting : Meeting α) : Prop where
  stored : good meeting.credential
  writes : ∀ i, (meeting.stances i).rest.AsksOnly (Query.WritesOnly good)

theorem KeepsGood.step {answered : Option (ι × Event)} (hgood : meeting.KeepsGood good)
    (hstep : Step meeting answered final) : final.KeepsGood good := by
  rcases hstep.cases with ⟨i, query, next, answer, -, hanswers⟩ | ⟨i, request, -, hsends⟩
  · have hrest := hgood.writes i
    rw [hanswers.rest] at hrest
    refine ⟨?_, fun j => ?_⟩
    · rw [hanswers.credential]
      exact hrest.1.leaves hgood.stored
    · by_cases hsame : j = i
      · subst hsame
        rw [hanswers.stances, Function.update_self]
        exact hrest.2 answer
      · rw [hanswers.stances, Function.update_of_ne hsame]
        exact hgood.writes j
  · refine ⟨hsends.credential ▸ hgood.stored, fun j => ?_⟩
    by_cases hsame : j = i
    · subst hsame
      exact hsends.keeps ▸ hgood.writes j
    · rw [hsends.stances j hsame]
      exact hgood.writes j

theorem KeepsGood.run {trace : Trace ι} (hgood : meeting.KeepsGood good)
    (hrun : Run meeting trace final) : final.KeepsGood good := by
  induction hrun with
  | nil => exact hgood
  | snoc _ hstep ih => exact ih.step hstep

/-- Whatever is stored while clients meet at a store, each with some operations, is reachable. -/
theorem reachable_of_run {operations : ι → List Operation} {trace : Trace ι}
    {final : Meeting fun _ : ι => Unit}
    (hrun : Run (opening (fun i => Operation.sequence config (operations i)) .blank) trace
      final) : Store.Reachable config final.credential :=
  have hopening : (opening (fun i => Operation.sequence config (operations i)) .blank).KeepsGood
      (Store.Reachable config) := ⟨.start, fun _ => Operation.sequence_writesOnly _⟩
  (hopening.run hrun).stored

end Meeting
end BearerClient
