import BearerClient.Proofs.Json.Members
import BearerClient.Proofs.Json.RoundTrip

/-!
# Forms

An object in any layout of which one member is open.  Whatever is put there, all other members are
read as before.  What is put there may even be no value at all, and then the whole object is none.
-/

namespace BearerClient.Json

open Scan

variable {α σ : Type} {depth : Nat} {rest octets : Bytes} {key : String} {value : Value}

/-! ## Values with gaps around them -/

/-- The octets are the text of a value, or of something that cannot be read as one, with gaps around
it. -/
def Holds (depth : Nat) (octets : Bytes) (taken : Except Fault Value) : Prop :=
  ∃ lead token trail, octets = lead ++ token ++ trail ∧ IsGap lead ∧ IsGap trail ∧
    ∀ rest, NumberEnds rest → readValue depth (token ++ rest) = taken.map (·, rest)

/-- The value is read up to a gap. -/
theorem Holds.readValue {taken : Except Fault Value} (hholds : Holds depth octets taken)
    (hseparates : Separates rest) :
    ∃ after, trimmed after = rest ∧ readValue depth (octets ++ rest) = taken.map (·, after) := by
  obtain ⟨lead, token, trail, rfl, hlead, htrail, hread⟩ := hholds
  refine ⟨trail ++ rest, (trimmed_gap htrail rest).trans hseparates.trimmed_eq, ?_⟩
  rw [List.append_assoc, List.append_assoc, ← readValue_trimmed, trimmed_gap hlead,
    readValue_trimmed]
  exact hread _ (numberEnds_gap htrail hseparates.numberEnds)

/-- A value with gaps around it is a whole text. -/
theorem Holds.parse (hholds : Holds maxDepth octets (.ok value)) : parse octets = .ok value := by
  obtain ⟨lead, token, trail, rfl, hlead, htrail, hread⟩ := hholds
  have hends : NumberEnds (trail ++ []) := numberEnds_gap htrail nofun
  have hend := trimmed_gap htrail []
  rw [List.append_nil] at hends hend
  refine readAll_eq_ok_iff.2 ⟨trail, ?_, hend⟩
  rw [List.append_assoc, ← readValue_trimmed, trimmed_gap hlead, readValue_trimmed]
  exact hread trail hends

/-! ## Forms -/

/-- A member whose value can be read. -/
structure Entry (depth : Nat) where
  key : String
  value : Value
  place : Place
  heads : Heads place.head key
  holds : Holds depth place.octets (.ok value)

/-- The key and the value of an entry. -/
def Entry.member (entry : Entry depth) : String × Value := (entry.key, entry.value)

/-- An object of which one member is open. -/
structure Form (depth : Nat) (key : String) where
  lead : Bytes := []
  before : List (Entry depth)
  head : Bytes
  after : List (Entry depth)
  trail : Bytes := []
  lead_gap : IsGap lead := by simp [IsGap]
  heads : Heads head key
  trail_gap : IsGap trail := by simp [IsGap]

namespace Form

variable (form : Form depth key)

/-- The members of the object, one of which has these octets for its value. -/
def inside (octets : Bytes) : Bytes :=
  placesText (form.before.map Entry.place ++ ⟨form.head, octets⟩ :: form.after.map Entry.place)

/-- The text of the object when something has been put in the place that is open. -/
def fill (octets : Bytes) : Bytes :=
  form.lead ++ (0x7B :: form.inside octets ++ [0x7D]) ++ form.trail

theorem trimmed_fill (octets rest : Bytes) : trimmed (form.fill octets ++ rest) =
    0x7B :: (form.inside octets ++ 0x7D :: (form.trail ++ rest)) := by
  rw [fill, List.append_assoc, List.append_assoc, trimmed_gap form.lead_gap]
  simp only [List.cons_append, List.append_assoc, List.nil_append]
  rfl

/-- The members when that is a value. -/
def members (value : Value) : List (String × Value) :=
  form.before.map Entry.member ++ (key, value) :: form.after.map Entry.member

/-- Which keys come twice does not depend on what is put in the place that is open. -/
theorem distinct_filter (kept : String → Bool) (value other : Value) :
    Distinct ((form.members value).filter fun member => kept member.1) ↔
      Distinct ((form.members other).filter fun member => kept member.1) := by
  have hkeys (value : Value) :
      ((form.members value).filter fun member => kept member.1).map Prod.fst =
        (form.before.map Entry.key ++ key :: form.after.map Entry.key).filter kept := by
    have hmembers : form.before.map Entry.key ++ key :: form.after.map Entry.key =
        (form.members value).map Prod.fst := by
      simp only [members, List.map_append, List.map_cons, List.map_map]
      rfl
    rw [hmembers, List.filter_map]
    rfl
  rw [Distinct, Distinct, hkeys, hkeys]

theorem lookup_key (kept : String → Bool) (hkey : kept key = true)
    (hdistinct : Distinct ((form.members value).filter fun member => kept member.1)) :
    Value.lookup (form.members value) key = some value := by
  rw [← Value.lookup_filter kept hkey, hdistinct.lookup_eq_some_iff]
  exact List.mem_filter.2 ⟨List.mem_append_right _ List.mem_cons_self, hkey⟩

/-- The other members are the same for all values. -/
theorem lookup_other {name : String} (hname : name ≠ key) (value other : Value) :
    Value.lookup (form.members value) name = Value.lookup (form.members other) name := by
  simp [Value.lookup, members, hname.symm]

end Form

/-! ## Reading a form -/

section Loop

variable {member : String → σ → Reader σ} {take : σ → String × Value → Except Fault σ}
  {effect : σ → Except Fault σ}

/-- Where a member has any value, the loop takes it. -/
def Takes (depth : Nat) (member : String → σ → Reader σ)
    (take : σ → String × Value → Except Fault σ) : Prop :=
  ∀ ⦃key value state input mid rest⦄, colon input = .ok ((), mid) →
    readValue depth mid = .ok (value, rest) →
      Agrees (member key state input) rest (take state (key, value))

/-- An entry, and what is made of it. -/
def Entry.step (take : σ → String × Value → Except Fault σ) (entry : Entry depth) :
    Place × (σ → Except Fault σ) :=
  (entry.place, fun state => take state entry.member)

theorem Entry.step_does (htakes : Takes depth member take) (entry : Entry depth) :
    Does member (entry.step take).1 (entry.step take).2 := by
  refine ⟨entry.key, entry.heads, fun state input rest hseparates hcolon => ?_⟩
  obtain ⟨after, hafter, hread⟩ := entry.holds.readValue hseparates
  exact ⟨after, hafter, htakes hcolon hread⟩

namespace Form

/-- What a loop makes of the members before the open one, of that one, and of the members after
it. -/
theorem readMembers_agrees (form : Form depth key) (htakes : Takes depth member take)
    (hplace : Does member ⟨form.head, octets⟩ effect) (rest : Bytes) (state : σ) :
    Agrees (readMembers member state (form.inside octets ++ 0x7D :: rest)) (0x7D :: rest) (do
      let state ← (form.before.map Entry.member).foldlM take state
      let state ← effect state
      (form.after.map Entry.member).foldlM take state) := by
  let steps := form.before.map (Entry.step take) ++ (⟨form.head, octets⟩, effect) ::
    form.after.map (Entry.step take)
  have hsteps : ∀ step ∈ steps, Does member step.1 step.2 := by
    intro step hstep
    rcases List.mem_append.1 hstep with hstep | hstep
    · obtain ⟨entry, -, rfl⟩ := List.mem_map.1 hstep
      exact entry.step_does htakes
    rcases List.mem_cons.1 hstep with rfl | hstep
    · exact hplace
    · obtain ⟨entry, -, rfl⟩ := List.mem_map.1 hstep
      exact entry.step_does htakes
  have hloop := readMembers_does hsteps rest state
  have hplaces : steps.map Prod.fst =
      form.before.map Entry.place ++ ⟨form.head, octets⟩ :: form.after.map Entry.place := by
    simp only [steps, List.map_append, List.map_cons, List.map_map]
    rfl
  have hfold : steps.foldlM (fun state step => step.2 state) state = (do
      let state ← (form.before.map Entry.member).foldlM take state
      let state ← effect state
      (form.after.map Entry.member).foldlM take state) := by
    simp only [steps, List.foldlM_append, List.foldlM_cons, List.foldlM_map]
    rfl
  rw [hplaces, hfold] at hloop
  exact hloop

/-- If the open member fails, the whole object does. -/
theorem readMembers_fails (form : Form depth key) (htakes : Takes depth member take)
    (hfails : Does member ⟨form.head, octets⟩ fun _ => .error .invalidType) (rest : Bytes)
    (state : σ) :
    ∃ fault, readMembers member state (form.inside octets ++ 0x7D :: rest) = .error fault := by
  refine (form.readMembers_agrees htakes hfails rest state).eq_error fun final hfinal => ?_
  obtain ⟨_, _, hfinal⟩ := except_bind_eq_ok.1 hfinal
  cases hfinal

end Form

end Loop

namespace Form

variable {form : Form depth key}

theorem collect_takes : Takes depth (collect (readValue depth))
    fun members member => .ok (member :: members) := by
  intro key value members input mid rest hcolon hread
  exact .ok ((bind_of_ok hcolon).trans (bind_of_ok hread))

/-- With a value in its place the object can be read. -/
theorem fill_holds {value : Value} (hholds : Holds depth octets (.ok value)) :
    Holds (depth + 1) (form.fill octets) (.ok (.object (form.members value))) := by
  refine ⟨form.lead, _, form.trail, rfl, form.lead_gap, form.trail_gap, fun rest _ => ?_⟩
  have hplace : Does (collect (readValue depth)) ⟨form.head, octets⟩
      fun members => .ok ((key, value) :: members) := by
    refine ⟨key, form.heads, fun members input rest hseparates hcolon => ?_⟩
    obtain ⟨after, hafter, hread⟩ := hholds.readValue hseparates
    exact ⟨after, hafter, collect_takes hcolon hread⟩
  have hloop := form.readMembers_agrees collect_takes hplace rest []
  have hfold : (do
      let members ← (form.before.map Entry.member).foldlM
        (fun members member => .ok (member :: members)) []
      let members ← .ok ((key, value) :: members)
      (form.after.map Entry.member).foldlM (fun members member => .ok (member :: members))
        members) = (.ok (form.members value).reverse : Except Fault _) := by
    rw [foldlM_collect]
    refine (foldlM_collect _ _).trans ?_
    simp only [members, List.append_nil, List.reverse_append, List.reverse_cons, List.append_assoc,
      List.singleton_append]
  rw [hfold] at hloop
  cases hloop with
  | ok hread =>
      have hclose : closeObject (0x7D :: rest) = .ok ((), rest) := rfl
      rw [List.cons_append, List.cons_append, List.append_assoc, readValue_object]
      refine (bind_of_ok hread).trans ((bind_of_ok hclose).trans ?_)
      rw [List.reverse_reverse]
      rfl

end Form

/-! ## Members that are written -/

/-- Octets that are read whole, with no gaps around them. -/
theorem holds_of_read {token : Bytes} {taken : Except Fault Value}
    (hread : ∀ rest, NumberEnds rest → readValue depth (token ++ rest) = taken.map (·, rest)) :
    Holds depth token taken :=
  ⟨[], token, [], (List.append_nil _).symm, isGap_nil, isGap_nil, hread⟩

/-- A gap more on either side makes no difference. -/
theorem Holds.surrounded {taken : Except Fault Value} {lead trail : Bytes} (hlead : IsGap lead)
    (hholds : Holds depth octets taken) (htrail : IsGap trail) :
    Holds depth (lead ++ octets ++ trail) taken := by
  obtain ⟨before, token, after, rfl, hbefore, hafter, hread⟩ := hholds
  refine ⟨lead ++ before, token, after ++ trail, by simp only [List.append_assoc],
    List.forall_mem_append.2 ⟨hlead, hbefore⟩, List.forall_mem_append.2 ⟨hafter, htrail⟩, hread⟩

theorem octets_holds (hfits : value.Fits depth) : Holds depth value.octets (.ok value) := by
  refine holds_of_read fun rest hends => ?_
  rw [octets_eq]
  exact readValue_chars value hfits rest hends

/-- An integer of any size, as far as it is read. -/
theorem integer_holds (n : Int) : Holds depth (Value.int n).octets
    ((NumberParts.value (n < 0) ⟨decimal n.natAbs, none, none⟩).map .number) := by
  refine holds_of_read fun rest hends => ?_
  rw [octets_eq, Value.int, Value.chars, Write.number, readValue_integer n hends]
  cases NumberParts.value (n < 0) ⟨decimal n.natAbs, none, none⟩ <;> rfl

theorem string_holds {quoted : Bytes} {text : String} (hspelling : Spelling quoted text) :
    Holds depth (0x22 :: quoted) (.ok (.string text)) :=
  holds_of_read fun rest _ => readValue_quoted hspelling rest

/-- A member as it is written. -/
def Entry.written (key : String) (value : Value) (hfits : value.Fits depth) : Entry depth where
  key
  value
  place := ⟨encoded (Write.string key) ++ [0x3A], value.octets⟩
  heads := heads_written key
  holds := octets_holds hfits

end BearerClient.Json
