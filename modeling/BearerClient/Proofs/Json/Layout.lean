import BearerClient.Proofs.Json.Decoding
import BearerClient.Proofs.Json.Tokens

/-!
# Objects in any layout

The members of an object with white space wherever it may stand and any spelling of the keys.  If it
is known of each member what the loop over them makes of a state there, then what it makes of all of
them follows.
-/

namespace BearerClient.Json

open Scan

variable {σ : Type} {bound : Nat} {input rest octets head : Bytes} {key : String}

/-! ## Parts of an object -/

/-- White space only. -/
def IsGap (octets : Bytes) : Prop := ∀ b ∈ octets, isSpace b = true

/-- A comma or a closing brace: what can follow a member. -/
def Separates (rest : Bytes) : Prop := rest.head? = some 0x2C ∨ rest.head? = some 0x7D

/-- After its opening quote, these octets are a string of this text, closing quote and all. -/
def Spelling (quoted : Bytes) (text : String) : Prop :=
  ∀ rest, stringBody (quoted ++ rest) = .ok (text, rest)

/-- What stands before the value of a member: its key and a colon, with gaps before and after the
key. -/
def Heads (head : Bytes) (key : String) : Prop :=
  ∃ lead quoted trail, head = lead ++ 0x22 :: quoted ++ trail ++ [0x3A] ∧
    IsGap lead ∧ Spelling quoted key ∧ IsGap trail

theorem isGap_nil : IsGap [] := nofun

theorem trimmed_gap (hgap : IsGap octets) (rest : Bytes) :
    trimmed (octets ++ rest) = trimmed rest :=
  List.dropWhile_append_of_pos hgap

theorem Separates.trimmed_eq (hseparates : Separates rest) : trimmed rest = rest := by
  cases rest with
  | nil => rfl
  | cons b rest =>
      have hspace : isSpace b = false := by
        rcases hseparates with hb | hb <;> cases hb <;> decide
      simp [trimmed, hspace]

theorem Separates.numberEnds (hseparates : Separates rest) : NumberEnds rest := by
  intro b hb
  rcases hseparates with hrest | hrest <;> rw [hrest] at hb <;> cases hb <;> decide

theorem numberEnds_gap (hgap : IsGap octets) (hends : NumberEnds rest) :
    NumberEnds (octets ++ rest) := by
  intro b hb
  cases octets with
  | nil => exact hends b hb
  | cons space octets =>
      cases hb
      have hspace := hgap b List.mem_cons_self
      simp only [isSpace, Bool.or_eq_true, decide_eq_true_eq] at hspace
      rcases hspace with ((rfl | rfl) | rfl) | rfl <;> decide

/-- The key is read up to the value. -/
theorem Heads.memberKey (hheads : Heads head key) (rest : Bytes) :
    ∃ tail mid, trimmed (head ++ rest) = 0x22 :: tail ∧ memberKey (0x22 :: tail) = .ok (key, mid) ∧
      colon mid = .ok ((), rest) := by
  obtain ⟨lead, quoted, trail, rfl, hlead, hspelling, htrail⟩ := hheads
  refine ⟨quoted ++ (trail ++ 0x3A :: rest), trail ++ 0x3A :: rest, ?_, hspelling _, ?_⟩
  · simp only [List.append_assoc, List.cons_append, List.nil_append]
    exact (trimmed_gap hlead _).trans rfl
  · rw [colon, peek_bind, trimmed_gap htrail]
    rfl

theorem encoded_string (text : String) : encoded (Write.string text) =
    0x22 :: (encoded (text.toList.flatMap Write.escaped) ++ [0x22]) := by
  rw [Write.string, List.cons_append, encoded_cons_ascii (by decide), encoded_append]
  rfl

/-- As it is written, a text is in one of its spellings. -/
theorem string_spelling (text : String) :
    ∃ quoted, encoded (Write.string text) = 0x22 :: quoted ∧ Spelling quoted text := by
  refine ⟨_, encoded_string text, fun rest => ?_⟩
  rw [List.append_assoc]
  exact stringBody_written text rest

theorem heads_written (key : String) : Heads (encoded (Write.string key) ++ [0x3A]) key := by
  obtain ⟨quoted, hquoted, hspelling⟩ := string_spelling key
  exact ⟨[], quoted, [], by rw [hquoted, List.nil_append, List.append_nil], isGap_nil, hspelling,
    isGap_nil⟩

/-! ## Members one after another -/

theorem remaining_eq_ok (input : Bytes) : remaining input = .ok (input.length, input) := rfl

/-- A member as it stands in a text. -/
structure Place where
  head : Bytes
  octets : Bytes

def Place.text (place : Place) : Bytes := place.head ++ place.octets

/-- What a loop over the members of an object makes of a state at one of them. -/
def Does (member : String → σ → Reader σ) (place : Place) (effect : σ → Except Fault σ) : Prop :=
  ∃ key, Heads place.head key ∧ ∀ state input rest, Separates rest →
    colon input = .ok ((), place.octets ++ rest) →
      ∃ after, trimmed after = rest ∧ Agrees (member key state input) after (effect state)

section Steps

variable {member : String → σ → Reader σ} {steps : List (Place × (σ → Except Fault σ))}

theorem separates_later (steps : List (Place × (σ → Except Fault σ))) (rest : Bytes) :
    Separates (steps.flatMap (fun step => 0x2C :: step.1.text) ++ 0x7D :: rest) := by
  cases steps with
  | nil => exact .inr rfl
  | cons step steps => exact .inl rfl

/-- By induction on the members, each of which leaves a gap before the comma of the next one. -/
theorem readMembersWithin_later_does (hsteps : ∀ step ∈ steps, Does member step.1 step.2)
    (hbound : steps.length < bound)
    (hinput : trimmed input = steps.flatMap (fun step => 0x2C :: step.1.text) ++ 0x7D :: rest)
    (state : σ) :
    Agrees (readMembersWithin member bound false state input) (0x7D :: rest)
      (steps.foldlM (fun state step => step.2 state) state) := by
  induction steps generalizing bound input state with
  | nil =>
      obtain ⟨bound, rfl⟩ : ∃ smaller, bound = smaller + 1 := ⟨bound - 1, by simp at hbound; omega⟩
      have hdone : anotherMember false input = .ok (false, 0x7D :: rest) := by
        rw [anotherMember, peek_bind, hinput]
        rfl
      exact .ok (bind_of_ok hdone)
  | cons step steps ih =>
      rw [List.length_cons] at hbound
      rw [List.forall_mem_cons] at hsteps
      obtain ⟨bound, rfl⟩ : ∃ smaller, bound = smaller + 1 := ⟨bound - 1, by omega⟩
      obtain ⟨⟨key, hheads, hdoes⟩, hsteps⟩ := hsteps
      have hseparates := separates_later steps rest
      rw [List.flatMap_cons, List.cons_append, List.cons_append, Place.text, List.append_assoc,
        List.append_assoc] at hinput
      obtain ⟨tail, mid, htail, hkey, hcolon⟩ := hheads.memberKey (step.1.octets ++ _)
      have hmore : anotherMember false input = .ok (true, 0x22 :: tail) := by
        rw [anotherMember, peek_bind, hinput]
        change (drop >>= _) _ = _
        rw [drop_bind, peek_bind, htail]
        rfl
      obtain ⟨after, hafter, hagrees⟩ := hdoes state mid _ hseparates hcolon
      rw [List.foldlM_cons]
      exact .step hmore (.step hkey (hagrees.bind fun state _ => ih hsteps (by omega) hafter state))

/-- The members of an object, without its braces. -/
def placesText : List Place → Bytes
  | [] => []
  | first :: places => first.text ++ places.flatMap fun place => 0x2C :: place.text

theorem length_le_placesText (places : List Place) :
    places.length ≤ (places.flatMap fun place => 0x2C :: place.text).length := by
  induction places with
  | nil => exact Nat.le_refl _
  | cons place places ih =>
      rw [List.flatMap_cons, List.length_append, List.length_cons, List.length_cons]
      omega

/-- What a loop makes of members that are given by their places. -/
theorem readMembers_does (hsteps : ∀ step ∈ steps, Does member step.1 step.2) (rest : Bytes)
    (state : σ) :
    Agrees (readMembers member state (placesText (steps.map Prod.fst) ++ 0x7D :: rest))
      (0x7D :: rest) (steps.foldlM (fun state step => step.2 state) state) := by
  cases steps with
  | nil => exact .ok rfl
  | cons step steps =>
      -- No comma stands before the first member, so it is no case of the induction.
      rw [List.forall_mem_cons] at hsteps
      obtain ⟨⟨key, hheads, hdoes⟩, hsteps⟩ := hsteps
      have hlater : (steps.map Prod.fst).flatMap (fun place => 0x2C :: place.text) =
          steps.flatMap fun step => 0x2C :: step.1.text := by
        rw [List.flatMap_map]
      rw [List.map_cons, placesText, hlater, Place.text, List.append_assoc, List.append_assoc]
      have hlength := length_le_placesText (steps.map Prod.fst)
      rw [hlater, List.length_map] at hlength
      have hseparates := separates_later steps rest
      generalize hfollows : steps.flatMap (fun step => 0x2C :: step.1.text) ++ 0x7D :: rest =
        follows at hseparates ⊢
      have hbound : steps.length < (step.1.head ++ (step.1.octets ++ follows)).length := by
        rw [List.length_append, List.length_append, ← hfollows, List.length_append,
          List.length_cons]
        omega
      obtain ⟨tail, mid, htail, hkey, hcolon⟩ := hheads.memberKey (step.1.octets ++ follows)
      generalize step.1.head ++ (step.1.octets ++ follows) = input at hbound htail ⊢
      have hmore : anotherMember true input = .ok (true, 0x22 :: tail) := by
        rw [anotherMember, peek_bind, htail]
        rfl
      obtain ⟨after, hafter, hagrees⟩ := hdoes state mid follows hseparates hcolon
      rw [List.foldlM_cons]
      refine .step (remaining_eq_ok _) (.step hmore (.step hkey ?_))
      refine hagrees.bind fun state _ => ?_
      exact readMembersWithin_later_does hsteps hbound (hafter.trans hfollows.symm) state

end Steps

end BearerClient.Json
