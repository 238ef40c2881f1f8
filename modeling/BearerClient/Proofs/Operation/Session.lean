import BearerClient.Client
import BearerClient.Proofs.Program.Contract

/-!
# Sessions

A session is a number of operations, one after another, on one world.  Its log
has the events of all of them, each with the operation that it belongs to.  What
every operation keeps, whatever was logged before it, holds of the whole
session: of the credential that is stored at its end, and of each question at
the moment when it is asked.
-/

namespace BearerClient.Session

variable {σ : Type} (config : Config) (backend : Backend σ)

/-- The world after some operations. -/
def world : List Operation → World σ → World σ
  | [], start => start
  | operation :: rest, start =>
    world rest ((operation.perform config).run.run backend start).2

/-- The events of some operations, in order. -/
def log : List Operation → World σ → List (Operation × Event)
  | [], _ => []
  | operation :: rest, start =>
    ((operation.perform config).run.events backend start).map (operation, ·) ++
      log rest ((operation.perform config).run.run backend start).2

/-- An element of two lists, one after the other, stands in one of them. -/
theorem split_append {α : Type} {first second before after : List α} {a : α}
    (hsplit : first ++ second = before ++ a :: after) :
    (∃ rest, first = before ++ a :: rest) ∨
      ∃ rest, before = first ++ rest ∧ second = rest ++ a :: after := by
  rcases List.append_eq_append_iff.1 hsplit with
    ⟨rest, hbefore, hsecond⟩ | ⟨rest, hfirst, htail⟩
  · exact .inr ⟨rest, hbefore, hsecond⟩
  · cases rest with
    | nil => exact .inr ⟨[], by simpa using hfirst.symm, htail.symm⟩
    | cons b rest =>
        simp only [List.cons_append, List.cons.injEq] at htail
        obtain ⟨rfl, -⟩ := htail
        exact .inl ⟨rest, hfirst⟩

/-- What each operation keeps holds of a session. -/
theorem invariant (operations : List Operation) (start : World σ)
    (asks : List (Operation × Event) → Operation → Credential → Query → Prop)
    (inv : List (Operation × Event) → Credential → Prop)
    (past : List (Operation × Event)) (hstart : inv past start.credential)
    (hkeeps : ∀ operation ∈ operations, ∀ past stored, inv past stored →
      (operation.perform config).run.Obeys
        (fun log stored query =>
          asks (past ++ log.map (operation, ·)) operation stored query)
        (fun log stored _ => inv (past ++ log.map (operation, ·)) stored)
        [] stored) :
    inv (past ++ log config backend operations start)
        (world config backend operations start).credential ∧
      ∀ before operation event after,
        log config backend operations start =
          before ++ (operation, event) :: after →
        asks (past ++ before) operation event.stored event.query := by
  induction operations generalizing start past with
  | nil => exact ⟨by simpa [log, world] using hstart, by simp [log]⟩
  | cons operation rest ih =>
      have hoperation := hkeeps operation (by simp) past _ hstart
      have hends := hoperation.ends_of_run backend
      obtain ⟨hinv, hasks⟩ := ih _ _ hends
        fun other hother => hkeeps other (by simp [hother])
      refine ⟨by simpa [log, world] using hinv, ?_⟩
      intro before current event after hsplit
      -- An event belongs to the first operation or comes after all of its events.
      rcases split_append hsplit with ⟨events, hfirst⟩ | ⟨later, rfl, hsecond⟩
      · obtain ⟨earlier, others, hevents, hbefore, hothers⟩ :=
          List.map_eq_append_iff.1 hfirst
        obtain ⟨found, others, rfl, hfound, -⟩ := List.map_eq_cons_iff.1 hothers
        simp only [Prod.mk.injEq] at hfound
        obtain ⟨rfl, rfl⟩ := hfound
        have hask := hoperation.asks_of_events backend hevents
        simpa [← hbefore] using hask
      · simpa using hasks later current event after hsecond

end BearerClient.Session
