import BearerClient.Proofs.Operation.Questions

/-!
# Whose requests are sent

All that is sent to deliver a call is the call itself, with some token, or a grant.  That holds
of every attempt, since whatever comes before it and between two of them sends grants alone.
-/

namespace BearerClient

namespace Program

variable {σ α : Type} {may : Wire.Request → Prop}

/-- Whatever it is answered, the program sends no other requests than it may. -/
def SendsOnly (may : Wire.Request → Prop) : Program α → Prop
  | done _ => True
  | abort => True
  | ask query next =>
    (∀ request, query = .send request → may request) ∧
      ∀ answer, (next answer).SendsOnly may

theorem sendsOnly_iff_asksOnly {program : Program α} :
    program.SendsOnly may ↔
      program.AsksOnly fun query => ∀ request, query = .send request → may request := by
  induction program with
  | done a => rfl
  | abort => rfl
  | ask query next ih => simp only [SendsOnly, AsksOnly, ih]

theorem SendsOnly.of_mem_events {program : Program α} (hprogram : program.SendsOnly may)
    (backend : Backend σ) {world : World σ} {event : Event}
    (hevent : event ∈ program.events backend world) {request : Wire.Request}
    (hquery : event.query = .send request) : may request :=
  (sendsOnly_iff_asksOnly.1 hprogram).of_mem_course (course_run backend program world) hevent
    request hquery

/-- A program that can afford no call sends grants alone. -/
theorem Within.sendsOnly {holds : α → Prop} {program : Program α}
    (hprogram : program.Within (Wire.Request.price 0 1) holds 0)
    (hgrants : ∀ request, request.hasBearer = false → may request) :
    program.SendsOnly may := by
  induction program with
  | done a => trivial
  | abort => trivial
  | ask query next ih =>
      obtain ⟨hcost, hnext⟩ := hprogram
      have hfree : query.cost (Wire.Request.price 0 1) = 0 := Nat.eq_zero_of_le_zero hcost
      refine ⟨fun request hquery => hgrants request ?_, fun answer => ih answer ?_⟩
      · rw [hquery, Query.cost, Wire.Request.price] at hfree
        cases hbearer : request.hasBearer with
        | false => rfl
        | true =>
            rw [hbearer] at hfree
            cases hfree
      · have hrest := hnext answer
        rwa [hfree] at hrest

end Program

variable {config : Config} {call : ApiCall} {may : Wire.Request → Prop}

theorem Store.getToken_sendsOnly (hgrants : ∀ request, request.hasBearer = false → may request) :
    (getToken config).run.SendsOnly may :=
  (getToken_within config 0 1).sendsOnly hgrants

theorem Store.refresh_sendsOnly (hgrants : ∀ request, request.hasBearer = false → may request) :
    (refresh config).run.SendsOnly may :=
  (refresh_within config 0 1).sendsOnly hgrants

/-- An operation sends grants, and the call that it makes. -/
theorem Operation.perform_sendsOnly {operation : Operation}
    (hgrants : ∀ request, request.hasBearer = false → may request)
    (hcalls : ∀ url token request, config.requestUrl call.path = .ok url →
      call.assemble config url token = .ok request → may request)
    (hoperation : operation.call? = some call) :
    (operation.perform config).run.SendsOnly may := by
  have htoken : (Store.getToken config).run.SendsOnly may := Store.getToken_sendsOnly hgrants
  have hrefresh : (Store.refresh config).run.SendsOnly may := Store.refresh_sendsOnly hgrants
  rw [Program.sendsOnly_iff_asksOnly] at htoken hrefresh ⊢
  refine perform_asksOnly htoken hrefresh ?_ hoperation
  intro url token request hurl hrequest sent hsent
  cases hsent
  exact hcalls url token request hurl hrequest

end BearerClient
