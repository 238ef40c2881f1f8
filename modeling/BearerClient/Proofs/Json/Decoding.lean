import BearerClient.Json.Decoder
import BearerClient.Proofs.Json.Skipping

/-!
# Descriptions mean one thing

A decoder reads a value straight from a text, or takes it from a `Value` that was read
beforehand.  Here the two agree: wherever any value can be read, the decoder reads the same text
to the same end with the result that it takes from the value, or fails on both.

So what a text of a known shape means can be said of the members it has, without its layout.
-/

namespace BearerClient.Json

open Scan

variable {α β σ : Type} {depth bound : Nat} {input mid rest tail : Bytes}

/-! ## Agreement -/

/-- A reading that ends at `rest` with what was taken, or fails if that was refused. -/
inductive Agrees (read : Except Fault (α × Bytes)) (rest : Bytes) : Except Fault α → Prop where
  | ok {a : α} (hread : read = .ok (a, rest)) : Agrees read rest (.ok a)
  | error {fault : Fault} {refusal : Fault} (hread : read = .error fault) :
      Agrees read rest (.error refusal)

namespace Agrees

theorem bind {reader : Reader α} {f : α → Reader β} {taken : Except Fault α}
    {g : α → Except Fault β} (hfirst : Agrees (reader input) mid taken)
    (hnext : ∀ a, taken = .ok a → Agrees (f a mid) rest (g a)) :
    Agrees ((reader >>= f) input) rest (taken >>= g) := by
  cases hfirst with
  | ok hread =>
      rw [bind_of_ok hread]
      exact hnext _ rfl
  | error hread => exact .error (bind_of_error hread)

/-- What is only checked when it is there. -/
theorem lift (taken : Except Fault α) (input : Bytes) :
    Agrees (taken.map (·, input)) input taken := by
  cases taken with
  | ok a => exact .ok rfl
  | error fault => exact .error rfl

theorem map {reader : Reader α} {taken : Except Fault α}
    (hreader : Agrees (reader input) rest taken) (f : α → β) :
    Agrees ((do return f (← reader) : Reader β) input) rest (taken.map f) := by
  cases hreader with
  | ok hread => exact .ok (bind_of_ok hread)
  | error hread => exact .error (bind_of_error hread)

/-- A step of the reader alone. -/
theorem step {reader : Reader α} {f : α → Reader β} {a : α} {taken : Except Fault β}
    (hreader : reader input = .ok (a, mid)) (hnext : Agrees (f a mid) rest taken) :
    Agrees ((reader >>= f) input) rest taken := by
  rwa [bind_of_ok hreader]

/-- A reading of which nothing is taken fails. -/
theorem eq_error {read : Except Fault (α × Bytes)} {taken : Except Fault α}
    (hagrees : Agrees read rest taken) (hrefused : ∀ a, taken ≠ .ok a) :
    ∃ fault, read = .error fault := by
  cases hagrees with
  | ok hread => exact absurd rfl (hrefused _)
  | error hread => exact ⟨_, hread⟩

/-- At the end of the input what was read is what was taken. -/
theorem readAll_eq_ok_iff {reader : Reader α} {taken : Except Fault α} {a : α}
    (hagrees : Agrees (reader input) rest taken) (hend : trimmed rest = []) :
    readAll reader input = .ok a ↔ taken = .ok a := by
  rw [Json.readAll_eq_ok_iff]
  cases hagrees with
  | ok hread =>
      constructor
      · rintro ⟨last, hlast, -⟩
        rw [hread] at hlast
        cases hlast
        rfl
      · rintro ⟨⟩
        exact ⟨rest, hread, hend⟩
  | error hread =>
      constructor
      · rintro ⟨last, hlast, -⟩
        rw [hread] at hlast
        cases hlast
      · exact nofun

end Agrees

/-- A decoder that reads from a text what it takes from the value there, and nothing that could
not be passed over. -/
structure Decoder.Lawful (decoder : Decoder α) : Prop where
  agrees : ∀ depth input value rest, readValue depth input = .ok (value, rest) →
    Agrees (decoder.read depth input) rest (decoder.ofValue value)
  passes : ∀ depth limit input, input.length < limit →
    Passes (decoder.read depth) (skipWithin limit) input

/-- From every text of this value the decoder reads what it takes from the value. -/
def Decoder.AgreesAt (decoder : Decoder α) (value : Value) : Prop :=
  ∀ ⦃depth input rest⦄, readValue depth input = .ok (value, rest) →
    Agrees (decoder.read depth input) rest (decoder.ofValue value)

theorem Decoder.Lawful.agreesAt {decoder : Decoder α} (hdecoder : decoder.Lawful) (value : Value) :
    decoder.AgreesAt value :=
  fun _ _ _ hread => hdecoder.agrees _ _ _ _ hread

/-! ## Values -/

/-- One more member of an object of any values, the latest first. -/
def collect (value : Reader Value) (key : String) (members : List (String × Value)) :
    Reader (List (String × Value)) := do
  colon
  let value ← value
  return (key, value) :: members

/-- A value by the octet it starts with. -/
inductive Spelled (depth : Nat) (input : Bytes) : Value → Bytes → Prop where
  | list {inner : Nat} {tail rest : Bytes} {items : List Value} (hdepth : depth = inner + 1)
      (htail : trimmed input = 0x5B :: tail)
      (hitems : readItems (readValue inner) tail = .ok (items, rest)) :
      Spelled depth input (.array items) rest
  | object {inner : Nat} {tail mid rest : Bytes} {members : List (String × Value)}
      (hdepth : depth = inner + 1) (htail : trimmed input = 0x7B :: tail)
      (hmembers : readMembers (collect (readValue inner)) [] tail = .ok (members, mid))
      (hclose : closeObject mid = .ok ((), rest)) :
      Spelled depth input (.object members.reverse) rest
  | scalar {b : UInt8} {tail rest : Bytes} {value : Value} (htail : trimmed input = b :: tail)
      (hlist : b ≠ 0x5B) (hobject : b ≠ 0x7B)
      (hscalar : readScalar b (b :: tail) = .ok (value, rest)) :
      Spelled depth input value rest

/-- What the values inside are read by. -/
def innerReader : Nat → Option (Reader Value)
  | 0 => none
  | depth + 1 => some (readValue depth)

theorem readValue_eq (depth : Nat) : readValue depth = readValueOver (innerReader depth) := by
  cases depth <;> rfl

theorem innerReader_eq_some {item : Reader Value} (hinner : innerReader depth = some item) :
    ∃ inner, depth = inner + 1 ∧ item = readValue inner := by
  cases depth with
  | zero => cases hinner
  | succ inner =>
      cases hinner
      exact ⟨inner, rfl, rfl⟩

theorem readValue_trimmed (depth : Nat) (input : Bytes) :
    readValue depth (trimmed input) = readValue depth input := by
  rw [readValue_eq]
  exact peek_bind_trimmed _ _

theorem readValue_eq_ok {value : Value} (hread : readValue depth input = .ok (value, rest)) :
    Spelled depth input value rest := by
  rw [readValue_eq] at hread
  obtain ⟨head, hhead, hread⟩ := peek_bind_eq_ok hread
  split at hread
  case h_1 => cases hread
  case h_2 =>
    obtain ⟨tail, htail⟩ := List.head?_eq_some_iff.1 hhead
    rw [htail] at hread
    obtain ⟨item, start, hdeeper, hread⟩ := bind_eq_ok.1 hread
    obtain ⟨hsome, rfl⟩ := deeper_eq_ok hdeeper
    obtain ⟨inner, hdepth, rfl⟩ := innerReader_eq_some hsome
    rw [drop_bind] at hread
    obtain ⟨items, after, hitems, hdone⟩ := bind_eq_ok.1 hread
    cases hdone
    exact .list hdepth htail hitems
  case h_3 =>
    obtain ⟨tail, htail⟩ := List.head?_eq_some_iff.1 hhead
    rw [htail] at hread
    obtain ⟨item, start, hdeeper, hread⟩ := bind_eq_ok.1 hread
    obtain ⟨hsome, rfl⟩ := deeper_eq_ok hdeeper
    obtain ⟨inner, hdepth, rfl⟩ := innerReader_eq_some hsome
    rw [drop_bind] at hread
    obtain ⟨members, mid, hmembers, hread⟩ := bind_eq_ok.1 hread
    obtain ⟨done, after, hclose, hdone⟩ := bind_eq_ok.1 hread
    cases hdone
    exact .object hdepth htail hmembers hclose
  case h_4 b hlist hobject =>
    obtain ⟨tail, htail⟩ := List.head?_eq_some_iff.1 hhead
    rw [htail] at hread
    exact .scalar htail hlist hobject hread

/-- Values that hold no others. -/
def Value.IsScalar : Value → Prop
  | .array _ | .object _ => False
  | _ => True

theorem readScalar_isScalar {b : UInt8} {value : Value}
    (hread : readScalar b (b :: tail) = .ok (value, rest)) :
    value.IsScalar ∧ (value = .null ↔ b = 0x6E) := by
  cases readScalar_eq_ok hread with
  | null hb hname => exact ⟨trivial, fun _ => hb, fun _ => rfl⟩
  | @bool value hb hname =>
      subst hb
      exact ⟨trivial, nofun, fun hnull => by cases value <;> cases hnull⟩
  | negative hb hnumber =>
      subst hb
      exact ⟨trivial, nofun, nofun⟩
  | natural hb hnumber => exact ⟨trivial, nofun, fun hnull => absurd hnull (ne_of_isDigit hb rfl)⟩
  | string hb htext =>
      subst hb
      exact ⟨trivial, nofun, nofun⟩

/-- The octet that a value starts with tells whether it is `null`. -/
theorem Spelled.head {value : Value} (hvalue : Spelled depth input value rest) :
    ∃ b tail, trimmed input = b :: tail ∧
      (b = 0x6E → value = .null ∧ readScalar b (b :: tail) = .ok (.null, rest)) ∧
      (b ≠ 0x6E → value ≠ .null) := by
  cases hvalue with
  | list hdepth htail hitems => exact ⟨_, _, htail, nofun, fun _ => nofun⟩
  | object hdepth htail hmembers hclose => exact ⟨_, _, htail, nofun, fun _ => nofun⟩
  | scalar htail hlist hobject hscalar =>
      obtain ⟨-, hnull⟩ := readScalar_isScalar hscalar
      refine ⟨_, _, htail, fun hb => ?_, fun hb hvalue => hb (hnull.1 hvalue)⟩
      rw [hnull.2 hb] at hscalar
      exact ⟨hnull.2 hb, hscalar⟩

/-! ## Simple decoders -/

theorem map_eq_ok_stays {taken : Except Fault α} {a : α}
    (hread : taken.map (·, input) = .ok (a, rest)) : rest = input := by
  cases taken with
  | ok a =>
      cases hread
      rfl
  | error fault => cases hread

namespace Decoder

theorem any_lawful : any.Lawful where
  agrees _ _ _ _ hread := .ok hread
  passes := readValue_passes

theorem refine_agreesAt {decoder : Decoder α} {value : Value} (hdecoder : decoder.AgreesAt value)
    (f : α → Except Fault β) : (decoder.refine f).AgreesAt value :=
  fun _ _ _ hread => (hdecoder hread).bind fun a _ => .lift (f a) _

theorem map_agreesAt {decoder : Decoder α} {value : Value} (hdecoder : decoder.AgreesAt value)
    (f : α → β) : (decoder.map f).AgreesAt value :=
  refine_agreesAt hdecoder _

theorem refine_lawful {decoder : Decoder α} (hdecoder : decoder.Lawful)
    (f : α → Except Fault β) : (decoder.refine f).Lawful where
  agrees _ _ value _ hread := refine_agreesAt (hdecoder.agreesAt value) f hread
  passes depth limit input hlimit :=
    (hdecoder.passes depth limit input hlimit).bind fun _ _ _ _ hread => map_eq_ok_stays hread

theorem map_lawful {decoder : Decoder α} (hdecoder : decoder.Lawful) (f : α → β) :
    (decoder.map f).Lawful :=
  refine_lawful hdecoder _

/-- It is enough that lists and objects are refused. -/
theorem scalar_lawful {take : Value → Except Fault α}
    (hlist : ∀ items, ∃ fault, take (.array items) = .error fault)
    (hobject : ∀ members, ∃ fault, take (.object members) = .error fault) :
    (scalar take).Lawful where
  agrees depth input value rest hread := by
    cases readValue_eq_ok hread with
    | @list inner tail rest items hdepth htail hitems =>
        have hfails : (scalar take).read depth input = .error .invalidType := by
          change (peek >>= _) input = _
          rw [peek_bind, htail]
          rfl
        obtain ⟨fault, hrefused⟩ := hlist items
        rw [show (scalar take).ofValue _ = _ from hrefused]
        exact .error hfails
    | @object inner tail mid rest members hdepth htail hmembers hclose =>
        have hfails : (scalar take).read depth input = .error .invalidType := by
          change (peek >>= _) input = _
          rw [peek_bind, htail]
          rfl
        obtain ⟨fault, hrefused⟩ := hobject members.reverse
        rw [show (scalar take).ofValue _ = _ from hrefused]
        exact .error hfails
    | @scalar b tail rest value htail hlist hobject hscalar =>
        change Agrees ((peek >>= _) input) _ (take value)
        rw [peek_bind, htail]
        simp only [List.head?_cons, hlist, hobject, or_self, if_false]
        exact .step hscalar (.lift (take value) rest)
  passes depth limit input hlimit := by
    refine .of_ok fun a rest hread => ?_
    obtain ⟨head, hhead, hread⟩ := peek_bind_eq_ok hread
    split at hread
    case h_1 => cases hread
    case h_2 b =>
      obtain ⟨tail, htail⟩ := List.head?_eq_some_iff.1 hhead
      rw [htail] at hread
      split at hread
      case isTrue => cases hread
      case isFalse hscalar =>
        obtain ⟨value, mid, hread, htaken⟩ := bind_eq_ok.1 hread
        rw [map_eq_ok_stays htaken]
        exact readScalar_skips htail (fun h => hscalar (.inl h)) (fun h => hscalar (.inr h)) hlimit
          hread

theorem text_lawful : text.Lawful := scalar_lawful (fun _ => ⟨_, rfl⟩) fun _ => ⟨_, rfl⟩

theorem optional_lawful {decoder : Decoder α} (hdecoder : decoder.Lawful) :
    decoder.optional.Lawful where
  agrees depth input value rest hread := by
    obtain ⟨b, tail, htail, hnull, hothers⟩ := (readValue_eq_ok hread).head
    by_cases hb : b = 0x6E
    · obtain ⟨rfl, hscalar⟩ := hnull hb
      refine .ok ?_
      change (peek >>= _) input = _
      rw [peek_bind, htail, hb]
      rw [hb] at hscalar
      exact bind_of_ok hscalar
    · have hread' : decoder.optional.read depth input =
          (do return some (← decoder.read depth) : Reader (Option α)) (trimmed input) := by
        change (peek >>= _) input = _
        rw [peek_bind, htail]
        simp [hb]
      have htake : decoder.optional.ofValue value = (decoder.ofValue value).map some := by
        cases value with
        | null => exact absurd rfl (hothers hb)
        | _ => rfl
      rw [← readValue_trimmed] at hread
      rw [hread', htake]
      exact (hdecoder.agrees depth (trimmed input) value rest hread).map some
  passes depth limit input hlimit := by
    refine .of_ok fun a rest hread => ?_
    have hle := length_trimmed_le input
    obtain ⟨head, hhead, hread⟩ := peek_bind_eq_ok hread
    split at hread
    case h_1 =>
      obtain ⟨tail, htail⟩ := List.head?_eq_some_iff.1 hhead
      rw [htail] at hread
      obtain ⟨value, mid, hread, hdone⟩ := bind_eq_ok.1 hread
      cases hdone
      exact readScalar_skips htail (by decide) (by decide) hlimit hread
    case h_2 =>
      obtain ⟨held, mid, hread, hdone⟩ := bind_eq_ok.1 hread
      cases hdone
      have hpasses := hdecoder.passes depth limit (trimmed input) (Nat.lt_of_le_of_lt hle hlimit)
      refine ⟨Nat.lt_of_lt_of_le (hpasses.length_lt _ _ hread) hle, ?_⟩
      rw [← skipWithin_trimmed]
      exact hpasses.skips _ _ hread

end Decoder

/-! ## Members of records -/

namespace Record

/-- Every field has a lawful decoder. -/
def Lawful : Record γ → Prop
  | .done => True
  | .field first rest => first.decoder.Lawful ∧ rest.Lawful

/-- A field of this name, if there is one, is read as it is taken from the value. -/
def AgreesAt (name : String) (value : Value) : Record γ → Prop
  | .done => True
  | .field first rest =>
    (name = first.name → first.decoder.AgreesAt value) ∧ rest.AgreesAt name value

theorem Lawful.agreesAt {record : Record α} (hrecord : record.Lawful) (name : String)
    (value : Value) : record.AgreesAt name value := by
  induction record with
  | done => trivial
  | field first others ih => exact ⟨fun _ => hrecord.1.agreesAt value, ih hrecord.2⟩

/-- A slot is filled from the text as it is from the value, by the same field if by any. -/
inductive FillsAlike (input rest : Bytes) :
    Option (Reader α) → Option (Except Fault α) → Prop where
  | unknown : FillsAlike input rest none none
  | filled {reader : Reader α} {taken : Except Fault α}
      (hagrees : Agrees (reader input) rest taken) :
      FillsAlike input rest (some reader) (some taken)

theorem FillsAlike.map {filled : Option (Reader α)} {taken : Option (Except Fault α)}
    (halike : FillsAlike input rest filled taken) (f : α → β) :
    FillsAlike input rest (filled.map fun reader => do return f (← reader))
      (taken.map fun taken => do return f (← taken)) := by
  cases halike with
  | unknown => exact .unknown
  | filled hagrees => exact .filled (hagrees.map f)

theorem FillsAlike.agrees {filled : Option (Reader α)} {taken : Option (Except Fault α)}
    {otherwise : Reader α} {a : α} (halike : FillsAlike input rest filled taken)
    (hunknown : otherwise input = .ok (a, rest)) :
    Agrees ((filled.getD otherwise) input) rest (taken.getD (.ok a)) := by
  cases halike with
  | unknown => exact .ok hunknown
  | filled hagrees => exact hagrees

theorem fill_alike {name : String} {value : Value} (hcolon : colon input = .ok ((), mid))
    (hread : readValue depth mid = .ok (value, rest)) {record : Record α}
    (hrecord : record.AgreesAt name value) (slots : record.Slots) :
    FillsAlike input rest
      (record.fill fail (fun decoder => do colon; decoder.read depth) name slots)
      (record.fill .error (fun decoder => decoder.ofValue value) name slots) := by
  induction record with
  | done => exact .unknown
  | field first others ih =>
      obtain ⟨hfirst, hothers⟩ := hrecord
      obtain ⟨slot, slots⟩ := slots
      unfold fill
      dsimp only
      by_cases hname : name = first.name
      · rw [if_pos hname, if_pos hname]
        refine .filled ?_
        cases slot with
        | some held => exact .error rfl
        | none =>
            refine Agrees.map ?_ _
            exact .step hcolon (hfirst hname hread)
      · rw [if_neg hname, if_neg hname]
        exact (ih hothers slots).map _

theorem readMember_eq (record : Record α) (depth : Nat) (key : String) (slots : record.Slots) :
    record.readMember depth key slots =
      (record.fill fail (fun decoder => do colon; decoder.read depth) key slots).getD
        (do colon; skipValue; return slots) := by
  unfold readMember
  split <;> simp [*]

theorem takeMember_eq (record : Record α) (slots : record.Slots) (member : String × Value) :
    record.takeMember slots member =
      (record.fill .error (fun decoder => decoder.ofValue member.2) member.1 slots).getD
        (.ok slots) := by
  unfold takeMember
  split <;> simp [*]

theorem readMember_agrees {key : String} {value : Value} {record : Record α}
    (hrecord : record.AgreesAt key value) (slots : record.Slots)
    (hcolon : colon input = .ok ((), mid)) (hread : readValue depth mid = .ok (value, rest)) :
    Agrees (record.readMember depth key slots input) rest
      (record.takeMember slots (key, value)) := by
  have hskip : skipValue mid = .ok ((), rest) :=
    (readValue_passes depth _ mid (Nat.lt_succ_self _)).skips _ _ hread
  rw [readMember_eq, takeMember_eq]
  refine (fill_alike hcolon hread hrecord slots).agrees ?_
  rw [bind_of_ok hcolon, bind_of_ok hskip]
  rfl

theorem fill_passes {limit : Nat} (hlimit : input.length < limit) {key : String}
    {record : Record α} (hrecord : record.Lawful) (slots : record.Slots)
    {reader : Reader record.Slots}
    (hfill : record.fill fail (fun decoder => do colon; decoder.read depth) key slots =
      some reader) :
    Passes reader (do colon; skipWithin limit) input := by
  induction record with
  | done => cases hfill
  | field first others ih =>
      obtain ⟨hfirst, hothers⟩ := hrecord
      obtain ⟨slot, slots⟩ := slots
      unfold fill at hfill
      dsimp only at hfill
      split at hfill
      · cases hfill
        cases slot with
        | some held => exact .of_ok nofun
        | none =>
            have hvalue : Passes (do colon; first.decoder.read depth) (do colon; skipWithin limit)
                input :=
              .afterColon fun rest hrest =>
                hfirst.passes depth limit rest (Nat.lt_trans hrest hlimit)
            exact hvalue.map _
      · obtain ⟨filled, hfilled, rfl⟩ := Option.map_eq_some_iff.1 hfill
        exact (ih hothers slots hfilled).map _

theorem readMember_passes {limit : Nat} (hlimit : input.length < limit) {key : String}
    {record : Record α} (hrecord : record.Lawful) (slots : record.Slots) :
    Passes (record.readMember depth key slots) (do colon; skipWithin limit) input := by
  unfold readMember
  split
  case h_1 filled hfilled => exact fill_passes hlimit hrecord slots hfilled
  case h_2 =>
    exact .afterColon fun rest hrest => (skipValue_passes (Nat.lt_trans hrest hlimit)).map _

end Record

/-! ## Objects -/

/-- Two loops over one object: where the members are collected as they stand, each may be taken
at once just as well.  By induction on the bound, which both loops count down together. -/
theorem readMembersWithin_agrees {item : Reader Value} {member : String → σ → Reader σ}
    {take : σ → String × Value → Except Fault σ} {first : Bool} {held all : List (String × Value)}
    (hmember : ∀ key state input mid value rest, (key, value) ∈ all →
      colon input = .ok ((), mid) → item mid = .ok (value, rest) →
        Agrees (member key state input) rest (take state (key, value)))
    (hread : readMembersWithin (collect item) bound first held input = .ok (all, rest)) :
    ∃ members, all.reverse = held.reverse ++ members ∧ ∀ state,
      Agrees (readMembersWithin member bound first state input) rest
        (members.foldlM take state) := by
  induction bound generalizing first held input with
  | zero => cases hread
  | succ bound ih =>
      obtain ⟨more, start, hmore, hread⟩ := bind_eq_ok.1 hread
      cases more with
      | false =>
          cases hread
          refine ⟨[], by simp, fun state => .ok ?_⟩
          rw [readMembersWithin, bind_of_ok hmore]
          rfl
      | true =>
          obtain ⟨key, afterKey, hkey, hread⟩ := bind_eq_ok.1 hread
          obtain ⟨collected, after, hcollect, hread⟩ := bind_eq_ok.1 hread
          obtain ⟨done, mid, hcolon, hcollect⟩ := bind_eq_ok.1 hcollect
          obtain ⟨value, last, hvalue, hdone⟩ := bind_eq_ok.1 hcollect
          cases hdone
          obtain ⟨members, hall, hagrees⟩ := ih hread
          have hmem : (key, value) ∈ all := by
            rw [← List.mem_reverse, hall]
            simp
          refine ⟨(key, value) :: members, by simp [hall], fun state => ?_⟩
          rw [readMembersWithin, List.foldlM_cons]
          refine .step hmore (.step hkey ?_)
          exact (hmember key state afterKey mid value after hmem hcolon hvalue).bind
            fun taken _ => hagrees taken

/-- What is made of the members of an object at its end. -/
theorem readMembers_agrees {inner : Nat} {member : String → σ → Reader σ}
    {take : σ → String × Value → Except Fault σ} {members : List (String × Value)}
    (hmember : ∀ key state input mid value rest, (key, value) ∈ members →
      colon input = .ok ((), mid) → readValue inner mid = .ok (value, rest) →
        Agrees (member key state input) rest (take state (key, value)))
    (start : σ) (finish : σ → Except Fault α)
    (hread : readMembers (collect (readValue inner)) [] input = .ok (members, mid))
    (hclose : closeObject mid = .ok ((), rest)) :
    Agrees ((do
        let state ← readMembers member start
        let a ← fun input => (finish state).map (·, input)
        closeObject
        return a : Reader α) input) rest
      (do finish (← members.reverse.foldlM take start)) := by
  obtain ⟨all, hall, hagrees⟩ := readMembersWithin_agrees hmember hread
  rw [List.reverse_nil, List.nil_append] at hall
  have hloop : Agrees (readMembers member start input) mid (all.foldlM take start) :=
    hagrees start
  rw [hall]
  refine hloop.bind fun state _ => ?_
  cases finish state with
  | error fault => exact .error (bind_of_error rfl)
  | ok a => exact .step rfl (.step hclose (.ok rfl))

/-- Whatever is made of the members, the object is passed over. -/
theorem finished_skips {member : String → σ → Reader σ} {start : σ} {finish : σ → Except Fault α}
    {limit : Nat} {a : α} (htail : trimmed input = 0x7B :: tail) (hlimit : input.length < limit)
    (hmember : ∀ limit key state input, input.length < limit →
      Passes (member key state) (do colon; skipWithin limit) input)
    (hread : (do
        let state ← readMembers member start
        let a ← fun input => (finish state).map (·, input)
        closeObject
        return a : Reader α) tail = .ok (a, rest)) :
    rest.length < input.length ∧ skipWithin limit input = .ok ((), rest) := by
  obtain ⟨state, mid, hmembers, hread⟩ := bind_eq_ok.1 hread
  obtain ⟨held, after, hfinish, hread⟩ := bind_eq_ok.1 hread
  rw [← map_eq_ok_stays hfinish] at hmembers
  obtain ⟨done, last, hclose, hdone⟩ := bind_eq_ok.1 hread
  cases hdone
  exact readMembers_skips htail hlimit hmember hmembers hclose

namespace Record

theorem readObject_agrees {record : Record α} {members : List (String × Value)}
    (hrecord : ∀ member ∈ members, record.AgreesAt member.1 member.2)
    (hread : readMembers (collect (readValue depth)) [] tail = .ok (members, mid))
    (hclose : closeObject mid = .ok ((), rest)) (b : UInt8) :
    Agrees (record.readObject depth (b :: tail)) rest (record.ofMembers members.reverse) := by
  rw [readObject, drop_bind]
  refine readMembers_agrees (fun key slots input mid value rest hmember hcolon hvalue => ?_)
    record.noSlots record.finish hread hclose
  exact readMember_agrees (hrecord _ hmember) slots hcolon hvalue

theorem readObject_passes {record : Record α} (hrecord : record.Lawful) {limit : Nat} {a : α}
    (htail : trimmed input = 0x7B :: tail) (hlimit : input.length < limit)
    (hread : record.readObject depth (0x7B :: tail) = .ok (a, rest)) :
    rest.length < input.length ∧ skipWithin limit input = .ok ((), rest) := by
  rw [readObject, drop_bind] at hread
  exact finished_skips htail hlimit
    (fun limit key slots input hbelow => readMember_passes hbelow hrecord slots) hread

/-! ## Records as lists -/

/-- The fields that were read are those of the list, if its end is reached as well. -/
structure FieldsAgree (read : Except Fault (α × Bytes)) (rest : Bytes) (taken : Except Fault α) :
    Prop where
  ok : ∀ a, taken = .ok a → ∃ last, read = .ok (a, last) ∧ closeList last = .ok ((), rest)
  error : ∀ fault, taken = .error fault → ∀ a last, read = .ok (a, last) →
    ∃ fault, closeList last = .error fault

theorem FieldsAgree.refused {read : Except Fault (α × Bytes)} {fault refusal : Fault}
    (hread : read = .error fault) : FieldsAgree read rest (.error refusal) where
  ok := nofun
  error _ _ a last hok := by
    rw [hread] at hok
    cases hok

theorem FieldsAgree.map {reader : Reader α} {taken : Except Fault α}
    (hreader : FieldsAgree (reader input) rest taken) (f : α → β) :
    FieldsAgree ((do return f (← reader) : Reader β) input) rest (do return f (← taken)) where
  ok b htaken := by
    obtain ⟨a, hheld, hdone⟩ := except_bind_eq_ok.1 htaken
    cases hdone
    obtain ⟨last, hread, hclose⟩ := hreader.ok a hheld
    exact ⟨last, bind_of_ok hread, hclose⟩
  error fault hrefused b last hread := by
    obtain ⟨a, after, hread, hdone⟩ := bind_eq_ok.1 hread
    cases hdone
    cases htaken : taken with
    | ok a =>
        rw [htaken] at hrefused
        cases hrefused
    | error fault => exact hreader.error fault htaken a last hread

theorem readItemsWithin_eq_ok {item : Reader α} {first : Bool} {items : List α}
    (hread : readItemsWithin item bound first input = .ok (items, rest)) :
    (items = [] ∧ anotherItem first input = .ok (false, rest)) ∨
      ∃ start head after others smaller, items = head :: others ∧
        anotherItem first input = .ok (true, start) ∧ item start = .ok (head, after) ∧
        readItemsWithin item smaller false after = .ok (others, rest) := by
  cases bound with
  | zero => cases hread
  | succ bound =>
      obtain ⟨more, start, hmore, hread⟩ := bind_eq_ok.1 hread
      cases more with
      | false =>
          cases hread
          exact .inl ⟨rfl, hmore⟩
      | true =>
          obtain ⟨head, after, hhead, hread⟩ := bind_eq_ok.1 hread
          obtain ⟨others, last, hothers, hdone⟩ := bind_eq_ok.1 hread
          cases hdone
          exact .inr ⟨start, head, after, others, bound, rfl, hmore, hhead, hothers⟩

theorem anotherItem_again {first : Bool} (hmore : anotherItem first input = .ok (false, mid)) :
    anotherItem first mid = .ok (false, mid) := by
  rw [← hmore, anotherItem_ended hmore]
  exact peek_bind_trimmed _ _

/-- A list with an item left is not at its end. -/
theorem closeList_another {first : Bool} (hmore : anotherItem first input = .ok (true, mid)) :
    ∃ fault, closeList input = .error fault := by
  cases hclose : closeList input with
  | error fault => exact ⟨fault, rfl⟩
  | ok result =>
      have hend := closeList_eq_ok hclose
      cases anotherItem_eq_ok hmore with
      | first hstart hb =>
          rw [hstart] at hend
          cases hend
          exact absurd rfl hb
      | later hcomma hstart hb =>
          rw [hcomma] at hend
          cases hend

theorem readFields_agrees {record : Record α} (hrecord : record.Lawful) {first : Bool}
    {items : List Value}
    (hread : readItemsWithin (readValue depth) bound first input = .ok (items, mid))
    (hclose : closeList mid = .ok ((), rest)) :
    FieldsAgree (record.readFields depth first input) rest (record.ofItems items) := by
  induction record generalizing items first input bound with
  | done =>
      rcases readItemsWithin_eq_ok hread with ⟨rfl, hmore⟩ |
        ⟨start, head, after, others, smaller, rfl, hmore, hhead, hothers⟩
      · refine ⟨fun a htaken => ⟨input, rfl, ?_⟩, nofun⟩
        rw [← closeList_ended hmore]
        exact hclose
      · refine ⟨nofun, fun fault hrefused a last hdone => ?_⟩
        cases hdone
        exact closeList_another hmore
  | field f others ih =>
      obtain ⟨hf, hrecord⟩ := hrecord
      rcases readItemsWithin_eq_ok hread with ⟨rfl, hmore⟩ |
        ⟨start, head, after, items, smaller, rfl, hmore, hhead, hitems⟩
      · rw [readFields, bind_of_ok hmore, ofItems, if_neg (by decide)]
        cases f.short with
        | none => exact .refused rfl
        | some a =>
            have hended : readItemsWithin (readValue depth) 1 first mid = .ok ([], mid) :=
              bind_of_ok (anotherItem_again hmore)
            exact (ih hrecord hended).map _
      · rw [readFields, bind_of_ok hmore, ofItems, if_pos rfl]
        have hfirst := hf.agrees depth start head after hhead
        generalize f.decoder.ofValue head = taken at hfirst ⊢
        cases hfirst with
        | error hrefused => exact .refused (bind_of_error hrefused)
        | ok ha =>
            rw [bind_of_ok ha]
            exact (ih hrecord hitems).map _

theorem readList_agrees {record : Record α} (hrecord : record.Lawful) {items : List Value}
    (hread : readItems (readValue depth) tail = .ok (items, rest)) (b : UInt8) :
    Agrees (record.readList depth (b :: tail)) rest (record.ofItems items) := by
  obtain ⟨mid, hitems, hclose⟩ := readItems_eq_ok hread
  have hfields := readFields_agrees hrecord hitems hclose
  rw [readList, drop_bind]
  cases htaken : record.ofItems items with
  | ok a =>
      obtain ⟨last, hread, hclose⟩ := hfields.ok a htaken
      exact .step hread (.step hclose (.ok rfl))
  | error refusal =>
      cases hread : record.readFields depth true tail with
      | error fault => exact .error (bind_of_error hread)
      | ok result =>
          obtain ⟨a, last⟩ := result
          obtain ⟨fault, hclose⟩ := hfields.error refusal htaken a last hread
          exact .step hread (.error (bind_of_error hclose))

theorem readFields_skips {record : Record α} (hrecord : record.Lawful) {first : Bool} {a : α}
    {limit bound : Nat} (hlimit : input.length < limit) (hbound : input.length ≤ bound)
    (hread : record.readFields depth first input = .ok (a, mid))
    (hclose : closeList mid = .ok ((), rest)) :
    rest.length < input.length ∧
      skipFrom .list (skipWithin limit) bound first input = .ok ((), rest) := by
  induction record generalizing first input bound with
  | done =>
      cases hread
      exact skipFrom_closeList hclose
  | field f others ih =>
      obtain ⟨hf, hrecord⟩ := hrecord
      obtain ⟨more, start, hmore, hread⟩ := bind_eq_ok.1 hread
      have hanother := anotherItem_eq_ok hmore
      have hle := hanother.length_le
      cases more with
      | false =>
          rw [if_neg (by decide)] at hread
          cases hshort : f.short with
          | none =>
              rw [hshort] at hread
              cases hread
          | some held =>
              rw [hshort] at hread
              obtain ⟨b, last, hothers, hdone⟩ := bind_eq_ok.1 hread
              cases hdone
              obtain ⟨hlength, hskip⟩ := ih hrecord (Nat.lt_of_le_of_lt hle hlimit)
                (Nat.le_trans hle hbound) hothers
              rw [anotherItem_ended hmore, skipFrom_trimmed] at hskip
              exact ⟨Nat.lt_of_lt_of_le hlength hle, hskip⟩
      | true =>
          rw [if_pos rfl] at hread
          obtain ⟨head, after, hhead, hread⟩ := bind_eq_ok.1 hread
          obtain ⟨b, last, hothers, hdone⟩ := bind_eq_ok.1 hread
          cases hdone
          have hpasses := hf.passes depth limit start (Nat.lt_of_le_of_lt hle hlimit)
          have hshort := hpasses.length_lt _ _ hhead
          obtain ⟨bound, rfl⟩ : ∃ smaller, bound = smaller + 1 := ⟨bound - 1, by omega⟩
          obtain ⟨hafter, hskip⟩ :=
            skipFrom_item (skipWithin_trimmed limit) hanother hpasses hhead
          have hbelow : after.length ≤ bound := by omega
          obtain ⟨hlength, hskipped⟩ := ih hrecord (Nat.lt_trans hafter hlimit) hbelow hothers
          rw [hskip]
          exact ⟨Nat.lt_trans hlength hafter, hskipped⟩

theorem readList_passes {record : Record α} (hrecord : record.Lawful) {limit : Nat} {a : α}
    (htail : trimmed input = 0x5B :: tail) (hlimit : input.length < limit)
    (hread : record.readList depth (0x5B :: tail) = .ok (a, rest)) :
    rest.length < input.length ∧ skipWithin limit input = .ok ((), rest) := by
  have hle := length_trimmed_le input
  rw [htail, List.length_cons] at hle
  obtain ⟨limit, rfl⟩ : ∃ smaller, limit = smaller + 1 := ⟨limit - 1, by omega⟩
  rw [readList, drop_bind] at hread
  obtain ⟨held, mid, hfields, hread⟩ := bind_eq_ok.1 hread
  obtain ⟨done, last, hclose, hdone⟩ := bind_eq_ok.1 hread
  cases hdone
  have hbelow : tail.length < limit := by omega
  obtain ⟨hlength, hskip⟩ := readFields_skips hrecord hbelow (Nat.le_of_lt hbelow) hfields hclose
  rw [skipWithin_list htail]
  exact ⟨by omega, hskip⟩

theorem decoder_refuses (record : Record α) {value : Value} (hvalue : value.IsScalar) :
    ∃ fault, record.decoder.ofValue value = .error fault := by
  cases value with
  | array items => exact hvalue.elim
  | object members => exact hvalue.elim
  | _ => exact ⟨_, rfl⟩

theorem decoder_read_scalar (record : Record α) {b : UInt8} (htail : trimmed input = b :: tail)
    (hlist : b ≠ 0x5B) (hobject : b ≠ 0x7B) : record.decoder.read depth input =
      (do let _ ← readScalar b; fail .invalidType : Reader α) (b :: tail) := by
  change (peek >>= _) input = _
  rw [peek_bind, htail]
  simp

/-- Of an object only the fields that it has members for are read. -/
theorem decoder_agreesAt {record : Record α} {value : Value}
    (hitems : ∀ items, value = .array items → record.Lawful)
    (hmembers : ∀ members, value = .object members →
      ∀ member ∈ members, record.AgreesAt member.1 member.2) : record.decoder.AgreesAt value := by
  intro depth input rest hread
  cases readValue_eq_ok hread with
  | @list inner tail rest items hdepth htail hlist =>
      subst hdepth
      change Agrees ((peek >>= _) input) _ _
      rw [peek_bind, htail]
      exact readList_agrees (hitems items rfl) hlist _
  | @object inner tail mid rest members hdepth htail hcollected hclose =>
      subst hdepth
      change Agrees ((peek >>= _) input) _ _
      rw [peek_bind, htail]
      refine readObject_agrees (fun member hmember => ?_) hcollected hclose _
      exact hmembers _ rfl member (List.mem_reverse.2 hmember)
  | @scalar b tail rest value htail hlist hobject hscalar =>
      obtain ⟨fault, hrefused⟩ := decoder_refuses record (readScalar_isScalar hscalar).1
      rw [hrefused, decoder_read_scalar record htail hlist hobject]
      exact .step hscalar (.error rfl)

/-- Where no list stands, it makes no difference that none is accepted. -/
theorem objectDecoder_agreesAt {record : Record α} {value : Value}
    (hmembers : ∀ members, value = .object members →
      ∀ member ∈ members, record.AgreesAt member.1 member.2) :
    record.objectDecoder.AgreesAt value := by
  intro depth input rest hread
  cases readValue_eq_ok hread with
  | @list inner tail rest items hdepth htail hitems =>
      subst hdepth
      have hfails : record.objectDecoder.read (inner + 1) input = .error .invalidType := by
        change (peek >>= _) input = _
        rw [peek_bind, htail]
        rfl
      exact .error hfails
  | @object inner tail mid rest members hdepth htail hcollected hclose =>
      have hsame : record.objectDecoder.read depth input = record.decoder.read depth input := by
        change (peek >>= _) input = (peek >>= _) input
        rw [peek_bind, peek_bind, htail]
        rfl
      rw [hsame]
      refine decoder_agreesAt (fun items hitems => ?_) hmembers hread
      cases hitems
  | @scalar b tail rest value htail hlist hobject hscalar =>
      have hvalue := (readScalar_isScalar hscalar).1
      have hsame : record.objectDecoder.read depth input = record.decoder.read depth input := by
        rw [decoder_read_scalar record htail hlist hobject]
        change (peek >>= _) input = _
        rw [peek_bind, htail]
        simp
      have htaken : record.objectDecoder.ofValue value = record.decoder.ofValue value := by
        cases value with
        | array items => exact hvalue.elim
        | _ => rfl
      rw [hsame, htaken]
      refine decoder_agreesAt (fun items hitems => ?_) hmembers hread
      rw [hitems] at hvalue
      exact hvalue.elim

theorem decoder_lawful {record : Record α} (hrecord : record.Lawful) : record.decoder.Lawful where
  agrees _ _ _ _ hread :=
    decoder_agreesAt (fun _ _ => hrecord) (fun _ _ member _ => hrecord.agreesAt member.1 member.2)
      hread
  passes depth limit input hlimit := by
    refine .of_ok fun a rest hread => ?_
    obtain ⟨head, hhead, hread⟩ := peek_bind_eq_ok hread
    split at hread
    case h_1 => cases hread
    case h_2 =>
      obtain ⟨tail, htail⟩ := List.head?_eq_some_iff.1 hhead
      rw [htail] at hread
      cases depth with
      | zero => cases hread
      | succ depth => exact readList_passes hrecord htail hlimit hread
    case h_3 =>
      obtain ⟨tail, htail⟩ := List.head?_eq_some_iff.1 hhead
      rw [htail] at hread
      cases depth with
      | zero => cases hread
      | succ depth => exact readObject_passes hrecord htail hlimit hread
    case h_4 =>
      obtain ⟨value, mid, hvalue, hread⟩ := bind_eq_ok.1 hread
      cases hread

end Record

end BearerClient.Json
