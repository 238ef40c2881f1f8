import BearerClient.Proofs.Json.Decoding
import BearerClient.Proofs.Json.Members

/-!
# Where fields come from

Whatever text a record was read from, each of its fields was read by the decoder of the field or
is one of its defaults.  The text need not be a value that could be read on its own: members of
other names are only passed over.
-/

namespace BearerClient.Json

open Scan

variable {α β σ : Type} {depth bound : Nat} {input mid rest tail : Bytes}

/-! ## Decoders -/

/-- What was only checked is what was there. -/
theorem map_eq_ok_taken {taken : Except Fault α} {a : α}
    (hread : taken.map (·, input) = .ok (a, rest)) : taken = .ok a := by
  cases taken with
  | ok a =>
      cases hread
      rfl
  | error fault => cases hread

/-- There is a text of which this is read. -/
def Decoder.Gives (decoder : Decoder α) (a : α) : Prop :=
  ∃ depth input rest, decoder.read depth input = .ok (a, rest)

namespace Decoder

theorem gives_of_run {decoder : Decoder α} {a : α} (hread : decoder.run input = .ok a) :
    decoder.Gives a := by
  obtain ⟨rest, hread, -⟩ := readAll_eq_ok_iff.1 hread
  exact ⟨_, _, rest, hread⟩

theorem gives_refine {decoder : Decoder α} {f : α → Except Fault β} {b : β}
    (hgives : (decoder.refine f).Gives b) : ∃ a, decoder.Gives a ∧ f a = .ok b := by
  obtain ⟨depth, input, rest, hread⟩ := hgives
  obtain ⟨a, mid, hread, hnext⟩ := bind_eq_ok.1 hread
  exact ⟨a, ⟨depth, input, mid, hread⟩, map_eq_ok_taken hnext⟩

theorem gives_map {decoder : Decoder α} {f : α → β} {b : β} (hgives : (decoder.map f).Gives b) :
    ∃ a, decoder.Gives a ∧ f a = b := by
  obtain ⟨a, hgives, hf⟩ := gives_refine hgives
  exact ⟨a, hgives, Except.ok.inj hf⟩

theorem map_ofValue {decoder : Decoder α} {value : Value} {a : α}
    (htake : decoder.ofValue value = .ok a) (f : α → β) :
    (decoder.map f).ofValue value = .ok (f a) := by
  change (decoder.ofValue value).bind _ = _
  rw [htake]
  rfl

theorem gives_scalar {take : Value → Except Fault α} {a : α} (hgives : (scalar take).Gives a) :
    ∃ value, take value = .ok a := by
  obtain ⟨depth, input, rest, hread⟩ := hgives
  obtain ⟨head, -, hread⟩ := peek_bind_eq_ok hread
  split at hread
  case h_1 => cases hread
  case h_2 =>
    split at hread
    case isTrue => cases hread
    case isFalse =>
      obtain ⟨value, mid, -, htaken⟩ := bind_eq_ok.1 hread
      exact ⟨value, map_eq_ok_taken htaken⟩

/-! ## Integers -/

theorem integer_lawful (low high : Int) : (integer low high).Lawful :=
  scalar_lawful (fun _ => ⟨_, rfl⟩) fun _ => ⟨_, rfl⟩

theorem gives_integer {low high n : Int} (hgives : (integer low high).Gives n) :
    low ≤ n ∧ n ≤ high := by
  obtain ⟨value, htake⟩ := gives_scalar hgives
  split at htake
  · split at htake
    · cases htake
      assumption
    · cases htake
  · cases htake

theorem natural_eq_map (bits : Nat) :
    natural bits = (integer 0 (Nat.pow 2 bits - 1 : Nat)).map Int.toNat := rfl

theorem natural_lawful (bits : Nat) : (natural bits).Lawful :=
  map_lawful (integer_lawful _ _) _

theorem natural_ofValue {bits n : Nat} (hn : n < Nat.pow 2 bits) :
    (natural bits).ofValue (.int n) = .ok n := by
  have hrange : (0 : Int) ≤ n ∧ (n : Int) ≤ (Nat.pow 2 bits - 1 : Nat) := by omega
  have hinteger : (integer 0 (Nat.pow 2 bits - 1 : Nat)).ofValue (.int n) = .ok (n : Int) :=
    if_pos hrange
  change ((integer 0 (Nat.pow 2 bits - 1 : Nat)).ofValue (.int n)).map Int.toNat = _
  rw [hinteger]
  rfl

theorem gives_natural {bits n : Nat} (hgives : (natural bits).Gives n) :
    n < Nat.pow 2 bits := by
  rw [natural_eq_map] at hgives
  obtain ⟨held, hheld, rfl⟩ := gives_map hgives
  obtain ⟨hlow, hhigh⟩ := gives_integer hheld
  have hpos : 0 < Nat.pow 2 bits := Nat.pow_pos (by decide)
  omega

end Decoder

/-! ## Records -/

/-- What a field may hold once a record was read. -/
def Member.Gives (member : Member α) (a : α) : Prop :=
  member.decoder.Gives a ∨ member.absent = some a ∨ member.short = some a

namespace Record

def Gives : Record γ → γ → Prop
  | .done, _ => True
  | .field first rest, (a, b) => first.Gives a ∧ rest.Gives b

/-- Every slot that is filled holds what the decoder of its field gives. -/
def SlotsGiven : (record : Record γ) → record.Slots → Prop
  | .done, _ => True
  | .field first rest, slots =>
    let (slot, slots) : Option _ × rest.Slots := slots
    (∀ a, slot = some a → first.decoder.Gives a) ∧ rest.SlotsGiven slots

theorem noSlots_given (record : Record α) : record.SlotsGiven record.noSlots := by
  induction record with
  | done => trivial
  | field first rest ih => exact ⟨nofun, ih⟩

theorem fill_given {key : String} {record : Record α} {slots filled : record.Slots}
    {reader : Reader record.Slots}
    (hfill : record.fill fail (fun decoder => do colon; decoder.read depth) key slots =
      some reader) (hslots : record.SlotsGiven slots)
    (hread : reader input = .ok (filled, rest)) : record.SlotsGiven filled := by
  induction record generalizing rest with
  | done => cases hfill
  | field first others ih =>
      obtain ⟨slot, slots⟩ := slots
      obtain ⟨hslot, hslots⟩ := hslots
      unfold fill at hfill
      dsimp only at hfill
      split at hfill
      · cases hfill
        cases slot with
        | some held => cases hread
        | none =>
            obtain ⟨a, mid, hvalue, hdone⟩ := bind_eq_ok.1 hread
            obtain ⟨done, start, -, hvalue⟩ := bind_eq_ok.1 hvalue
            cases hdone
            refine ⟨fun held hheld => ?_, hslots⟩
            cases hheld
            exact ⟨depth, start, _, hvalue⟩
      · obtain ⟨inner, hinner, rfl⟩ := Option.map_eq_some_iff.1 hfill
        obtain ⟨taken, mid, htaken, hdone⟩ := bind_eq_ok.1 hread
        cases hdone
        exact ⟨hslot, ih hinner hslots htaken⟩

theorem readMember_given {key : String} {record : Record α} {slots filled : record.Slots}
    (hslots : record.SlotsGiven slots)
    (hread : record.readMember depth key slots input = .ok (filled, rest)) :
    record.SlotsGiven filled := by
  rw [readMember_eq] at hread
  cases hfill : record.fill fail (fun decoder => do colon; decoder.read depth) key slots with
  | some reader =>
      rw [hfill] at hread
      exact fill_given hfill hslots hread
  | none =>
      rw [hfill] at hread
      obtain ⟨done, mid, -, hread⟩ := bind_eq_ok.1 hread
      obtain ⟨done, mid, -, hdone⟩ := bind_eq_ok.1 hread
      cases hdone
      exact hslots

/-- What every member keeps, the loop over the members keeps. -/
theorem readMembersWithin_keeps {member : String → σ → Reader σ} {keeps : σ → Prop}
    (hmember : ∀ {key state input state' rest}, keeps state →
      member key state input = .ok (state', rest) → keeps state')
    {first : Bool} {state final : σ} (hstate : keeps state)
    (hread : readMembersWithin member bound first state input = .ok (final, rest)) :
    keeps final := by
  induction bound generalizing first state input with
  | zero => cases hread
  | succ bound ih =>
      obtain ⟨more, start, -, hread⟩ := bind_eq_ok.1 hread
      cases more with
      | false =>
          cases hread
          exact hstate
      | true =>
          obtain ⟨key, afterKey, -, hread⟩ := bind_eq_ok.1 hread
          obtain ⟨taken, after, htaken, hread⟩ := bind_eq_ok.1 hread
          exact ih (hmember hstate htaken) hread

theorem finish_gives {record : Record α} {slots : record.Slots} {a : α}
    (hslots : record.SlotsGiven slots) (hfinish : record.finish slots = .ok a) :
    record.Gives a := by
  induction record with
  | done => trivial
  | field first others ih =>
      obtain ⟨slot, slots⟩ := slots
      obtain ⟨hslot, hslots⟩ := hslots
      obtain ⟨a, b⟩ := a
      obtain ⟨hheld, hlater⟩ := finish_field.1 hfinish
      refine ⟨?_, ih hslots hlater⟩
      cases slot with
      | some held =>
          cases hheld
          exact .inl (hslot _ rfl)
      | none => exact .inr (.inl hheld)

theorem readFields_gives {record : Record α} {first : Bool} {a : α}
    (hread : record.readFields depth first input = .ok (a, rest)) : record.Gives a := by
  induction record generalizing first input rest with
  | done => trivial
  | field f others ih =>
      obtain ⟨more, start, -, hread⟩ := bind_eq_ok.1 hread
      split at hread
      case isTrue =>
        obtain ⟨held, mid, hheld, hread⟩ := bind_eq_ok.1 hread
        obtain ⟨later, last, hlater, hdone⟩ := bind_eq_ok.1 hread
        cases hdone
        exact ⟨.inl ⟨depth, start, mid, hheld⟩, ih hlater⟩
      case isFalse =>
        cases hshort : f.short with
        | some held =>
            rw [hshort] at hread
            obtain ⟨later, last, hlater, hdone⟩ := bind_eq_ok.1 hread
            cases hdone
            exact ⟨.inr (.inr hshort), ih hlater⟩
        | none =>
            rw [hshort] at hread
            cases hread

/-- Each field of a record that was read was read by its decoder or is a default. -/
theorem gives_decoder {record : Record α} {a : α} (hgives : record.decoder.Gives a) :
    record.Gives a := by
  obtain ⟨depth, input, rest, hread⟩ := hgives
  obtain ⟨head, -, hread⟩ := peek_bind_eq_ok hread
  split at hread
  case h_1 => cases hread
  case h_2 =>
    cases depth with
    | zero => cases hread
    | succ depth =>
        obtain ⟨done, start, -, hread⟩ := bind_eq_ok.1 hread
        obtain ⟨held, mid, hfields, hread⟩ := bind_eq_ok.1 hread
        obtain ⟨done, last, -, hdone⟩ := bind_eq_ok.1 hread
        cases hdone
        exact readFields_gives hfields
  case h_3 =>
    cases depth with
    | zero => cases hread
    | succ depth =>
        obtain ⟨done, start, -, hread⟩ := bind_eq_ok.1 hread
        obtain ⟨slots, mid, hmembers, hread⟩ := bind_eq_ok.1 hread
        obtain ⟨held, after, hfinish, hread⟩ := bind_eq_ok.1 hread
        obtain ⟨done, last, -, hdone⟩ := bind_eq_ok.1 hread
        cases hdone
        obtain ⟨count, counted, -, hmembers⟩ := bind_eq_ok.1 hmembers
        have hslots : record.SlotsGiven slots :=
          readMembersWithin_keeps readMember_given record.noSlots_given hmembers
        exact finish_gives hslots (map_eq_ok_taken hfinish)
  case h_4 =>
    obtain ⟨value, mid, -, hfails⟩ := bind_eq_ok.1 hread
    cases hfails

end Record
end BearerClient.Json
