import Mathlib.Algebra.Ring.Nat
import BearerClient.Proofs.Program.Calls
import BearerClient.Proofs.Program.Events

/-!
# Budgets

Requests have a price, and all other questions are free.  A program stays within
a budget if, whatever it is answered, it pays for all of its requests from it and
comes to a result.  A result that it cannot come to makes no difference to what
follows the program.
-/

namespace BearerClient

/-- What a question costs. -/
def Query.cost (price : Wire.Request → Nat) : Query → Nat
  | .send request => price request
  | _ => 0

namespace Program

variable {σ α β : Type} {price : Wire.Request → Nat} {holds : α → Prop}

/-- The program pays from a budget, and comes to a result as it should be. -/
def Within (price : Wire.Request → Nat) (holds : α → Prop) : Program α → Nat → Prop
  | done a, _ => holds a
  | abort, _ => False
  | ask query next, budget =>
    query.cost price ≤ budget ∧
      ∀ answer, (next answer).Within price holds (budget - query.cost price)

theorem within_done {a : α} {budget : Nat} :
    (done a).Within price holds budget ↔ holds a := Iff.rfl

theorem Within.mono {holds' : α → Prop} {program : Program α}
    {budget budget' : Nat} (hprogram : program.Within price holds budget)
    (hbudget : budget ≤ budget') (hholds : ∀ a, holds a → holds' a) :
    program.Within price holds' budget' := by
  induction program generalizing budget budget' with
  | done a => exact hholds a hprogram
  | abort => exact hprogram
  | ask query next ih =>
      obtain ⟨hcost, hnext⟩ := hprogram
      exact ⟨by omega, fun answer => ih answer (hnext answer) (by omega)⟩

theorem Within.bind {holds' : β → Prop} {program : Program α}
    {f : α → Program β} {budget rest : Nat}
    (hprogram : program.Within price holds budget)
    (hf : ∀ a, holds a → (f a).Within price holds' rest) :
    (program.bind f).Within price holds' (budget + rest) := by
  induction program generalizing budget with
  | done a => exact (hf a hprogram).mono (by omega) fun _ h => h
  | abort => exact hprogram
  | ask query next ih =>
      obtain ⟨hcost, hnext⟩ := hprogram
      refine ⟨by omega, fun answer => ?_⟩
      exact (ih answer (hnext answer)).mono (by omega) fun _ h => h

theorem Within.bind_congr {program : Program α} {f g : α → Program β}
    {budget : Nat} (hprogram : program.Within price holds budget)
    (heq : ∀ a, holds a → f a = g a) : program.bind f = program.bind g := by
  induction program generalizing budget with
  | done a => exact heq a hprogram
  | abort => exact hprogram.elim
  | ask query next ih =>
      obtain ⟨-, hnext⟩ := hprogram
      exact congrArg (Program.ask query)
        (funext fun answer => ih answer (hnext answer))

variable (backend : Backend σ) {program : Program α} {budget : Nat}
  (hprogram : program.Within price holds budget) (world : World σ)
include hprogram

theorem Within.run :
    ∃ a final, program.run backend world = (some a, final) ∧ holds a := by
  induction program generalizing budget world with
  | done a => exact ⟨a, world, rfl, hprogram⟩
  | abort => exact hprogram.elim
  | ask query next ih =>
      obtain ⟨-, hnext⟩ := hprogram
      exact ih _ (hnext _) _

theorem Within.requests :
    ((Event.requests (program.events backend world)).map price).sum ≤ budget := by
  induction program generalizing budget world with
  | done a => simp [events]
  | abort => exact hprogram.elim
  | ask query next ih =>
      obtain ⟨hcost, hnext⟩ := hprogram
      have hrest := ih _ (hnext (world.answer backend query).1)
        (world.answer backend query).2
      have hfirst : (query.request?.toList.map price).sum = query.cost price := by
        cases query <;> simp [Query.request?, Query.cost]
      rw [events, Event.requests_cons, List.map_append, List.sum_append, hfirst]
      omega

end Program

namespace Call

variable {α β : Type} {price : Wire.Request → Nat} {holds : α → Prop}

/-- The result is as it should be, or a failure for which nothing is to be sent
again. -/
inductive Settled (holds : α → Prop) : Except Failure α → Prop where
  | ok {a : α} (hresult : holds a) : Settled holds (.ok a)
  | error {failure : Failure} (hfinal : failure.isRetryNeeded = false) :
      Settled holds (.error failure)

theorem Settled.final {failure : Failure}
    (hsettled : Settled holds (.error failure)) : failure.isRetryNeeded = false := by
  cases hsettled with
  | error hfinal => exact hfinal

theorem settled_bind {holds' : β → Prop} {decided : Except Failure α}
    {f : α → Except Failure β} (hdecided : Settled holds decided)
    (hf : ∀ a, holds a → Settled holds' (f a)) :
    Settled holds' (decided >>= f) := by
  cases hdecided with
  | ok hresult => exact hf _ hresult
  | error hfinal => exact .error hfinal

theorem within_bind {holds' : β → Prop} {call : Call α} {f : α → Call β}
    {budget rest total : Nat}
    (hcall : call.run.Within price (Settled holds) budget)
    (hf : ∀ a, holds a → (f a).run.Within price (Settled holds') rest)
    (htotal : budget + rest ≤ total) :
    (call >>= f).run.Within price (Settled holds') total := by
  have hboth : (call >>= f).run.Within price (Settled holds') (budget + rest) := by
    apply Program.Within.bind hcall
    intro result hresult
    cases hresult with
    | ok hresult => exact hf _ hresult
    | error hfinal => exact .error hfinal
  exact hboth.mono htotal fun _ hresult => hresult

theorem within_decided {decided : Except Failure α} {budget : Nat}
    (hdecided : Settled holds decided) :
    (decided : Call α).run.Within price (Settled holds) budget := hdecided

theorem within_send {request : Wire.Request} :
    (send request).run.Within price (Settled fun _ => True) (price request) := by
  rw [← bind_pure (send request), run_send_bind]
  refine ⟨Nat.le_refl _, fun answer => ?_⟩
  cases answer with
  | error source => exact .error rfl
  | ok response => exact .ok trivial

theorem within_locked {call : Call α} {budget : Nat}
    (hcall : call.run.Within price (Settled holds) budget) :
    (locked call).run.Within price (Settled holds) budget := by
  have hunlock : ∀ result, Settled holds result →
      (Program.ask .unlock fun _ => .done result).Within price
        (Settled holds) 0 :=
    fun result hresult => ⟨Nat.le_refl 0, fun _ => hresult⟩
  rw [run_locked]
  exact ⟨Nat.zero_le _, fun _ => Program.Within.bind hcall hunlock⟩

end Call
end BearerClient
