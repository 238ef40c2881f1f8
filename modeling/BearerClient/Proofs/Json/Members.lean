import BearerClient.Json.Decoder
import BearerClient.Proofs.Json.Reading
import Mathlib.Data.List.Induction
import Mathlib.Data.List.Nodup

/-!
# Members by name

The members of an object arrive one after another.  Where no key comes twice their order does not
matter: a record is what its fields are given by the members of their names, whatever others
there are.
-/

namespace BearerClient.Json

variable {α β : Type} {members : List (String × Value)} {key name : String} {value : Value}

/-! ## Looking up -/

/-- No key comes twice. -/
def Distinct (members : List (String × α)) : Prop := (members.map Prod.fst).Nodup

instance (members : List (String × α)) : Decidable (Distinct members) :=
  inferInstanceAs (Decidable (List.Nodup _))

namespace Value

theorem lookup_append_singleton (members : List (String × α)) (key : String) (a : α) :
    lookup (members ++ [(key, a)]) name = if key = name then some a else lookup members name := by
  by_cases hkey : key = name
  · simp [lookup, hkey]
  · simp [lookup, hkey]

theorem lookup_eq_none_iff {members : List (String × α)} :
    lookup members name = none ↔ name ∉ members.map Prod.fst := by
  rw [lookup, Option.map_eq_none_iff, List.find?_eq_none]
  simp only [List.mem_reverse, beq_iff_eq, List.mem_map, not_exists, not_and]

/-- A key is found among those that were kept as it was among all. -/
theorem lookup_filter {members : List (String × α)} (kept : String → Bool)
    (hname : kept name = true) :
    lookup (members.filter fun member => kept member.1) name = lookup members name := by
  rw [lookup, lookup, ← List.filter_reverse, List.find?_filter]
  congr 2
  funext member
  by_cases hmember : member.1 = name
  · simp [hmember, hname]
  · simp [hmember]

end Value

/-- Members whose keys differ, and a last one with yet another key. -/
theorem distinct_append_iff {last : String × α} {members : List (String × α)} :
    Distinct (members ++ [last]) ↔ Distinct members ∧ Value.lookup members last.1 = none := by
  rw [Distinct, Distinct, Value.lookup_eq_none_iff, List.map_append, List.map_singleton,
    ← List.concat_eq_append, List.nodup_concat, and_comm]

/-- Where no key comes twice, it is found wherever it stands. -/
theorem Distinct.lookup_eq_some_iff {members : List (String × α)} (hdistinct : Distinct members)
    {a : α} : Value.lookup members name = some a ↔ (name, a) ∈ members := by
  induction members using List.reverseRecOn with
  | nil => simp [Value.lookup]
  | append_singleton members last ih =>
      obtain ⟨key, held⟩ := last
      obtain ⟨hmembers, hnew⟩ := distinct_append_iff.1 hdistinct
      rw [Value.lookup_append_singleton, List.mem_append, List.mem_singleton, Prod.mk.injEq]
      by_cases hkey : key = name
      · subst hkey
        have habsent : (key, a) ∉ members := by
          rw [← ih hmembers, show Value.lookup members key = none from hnew]
          exact nofun
        simp [habsent, eq_comm]
      · simp [hkey, ih hmembers, Ne.symm hkey]

theorem Distinct.filter {members : List (String × α)} (hdistinct : Distinct members)
    (p : String × α → Bool) : Distinct (members.filter p) :=
  hdistinct.sublist (List.filter_sublist.map Prod.fst)

/-- Keys of two kinds, none of which comes twice. -/
theorem distinct_iff_filter {members : List (String × α)} (kind : String → Bool) :
    Distinct members ↔ Distinct (members.filter fun member => kind member.1) ∧
      Distinct (members.filter fun member => !kind member.1) := by
  have hkinds := (List.filter_append_perm (fun member => kind member.1) members).map Prod.fst
  rw [Distinct, ← hkinds.nodup_iff, List.map_append, List.nodup_append]
  constructor
  · exact fun ⟨hfirst, hsecond, _⟩ => ⟨hfirst, hsecond⟩
  · refine fun ⟨hfirst, hsecond⟩ => ⟨hfirst, hsecond, ?_⟩
    rintro _ hone _ hother rfl
    obtain ⟨one, hone, hkey⟩ := List.mem_map.1 hone
    obtain ⟨other, hother, hsame⟩ := List.mem_map.1 hother
    have hkind := (List.mem_filter.1 hone).2
    rw [hkey, ← hsame] at hkind
    simp [hkind] at hother

theorem Distinct.perm {members others : List (String × α)} (hdistinct : Distinct members)
    (hperm : others.Perm members) : Distinct others :=
  (hperm.map Prod.fst).nodup_iff.2 hdistinct

theorem Distinct.lookup_perm {members others : List (String × α)} (hdistinct : Distinct members)
    (hperm : others.Perm members) (name : String) :
    Value.lookup others name = Value.lookup members name := by
  refine Option.ext fun a => ?_
  rw [(hdistinct.perm hperm).lookup_eq_some_iff, hdistinct.lookup_eq_some_iff, hperm.mem_iff]

/-- What is taken of a member that may be missing is nothing only if it is. -/
theorem mapM_eq_ok_none_iff {found : Option Value} {take : Value → Except Fault α} :
    found.mapM take = .ok none ↔ found = none := by
  constructor
  · intro htake
    cases found with
    | none => rfl
    | some value =>
        obtain ⟨held, -, hdone⟩ := except_bind_eq_ok.1 htake
        cases hdone
  · rintro rfl
    rfl

/-! ## Records -/

namespace Record

/-- The names of the fields. -/
def names : Record γ → List String
  | .done => []
  | .field first rest => first.name :: rest.names

/-- Each slot holds what its field is given by the member of its name. -/
def Filled (members : List (String × Value)) : (record : Record γ) → record.Slots → Prop
  | .done, _ => True
  | .field first rest, slots =>
    let (slot, slots) : Option _ × rest.Slots := slots
    (Value.lookup members first.name).mapM first.decoder.ofValue = .ok slot ∧
      rest.Filled members slots

theorem filled_nil_iff {record : Record α} {slots : record.Slots} :
    record.Filled [] slots ↔ slots = record.noSlots := by
  induction record with
  | done => simp [Filled]
  | field first rest ih =>
      obtain ⟨slot, slots⟩ := slots
      change (.ok none : Except Fault (Option _)) = .ok slot ∧ rest.Filled [] slots ↔
        (slot, slots) = (none, rest.noSlots)
      rw [ih, Prod.mk.injEq, Except.ok.injEq, eq_comm]

/-- A member of no field leaves every slot as it is. -/
theorem filled_append_unknown {record : Record α} (hname : key ∉ record.names)
    {slots : record.Slots} :
    record.Filled (members ++ [(key, value)]) slots ↔ record.Filled members slots := by
  induction record with
  | done => exact Iff.rfl
  | field first rest ih =>
      obtain ⟨slot, slots⟩ := slots
      rw [names, List.mem_cons, not_or] at hname
      rw [Filled, Filled, ih hname.2, Value.lookup_append_singleton, if_neg hname.1]

theorem takeMember_field {first : Member α} {rest : Record β} (slot : Option α)
    (slots : rest.Slots) (member : String × Value) :
    (Record.field first rest).takeMember (slot, slots) member =
      if member.1 = first.name then
        match slot with
        | some _ => .error (.duplicateField member.1)
        | none => do return (some (← first.decoder.ofValue member.2), slots)
      else do return (slot, ← rest.takeMember slots member) := by
  conv =>
    lhs
    unfold takeMember fill
  by_cases hname : member.1 = first.name
  · cases slot <;> simp only [if_pos hname]
  · simp only [if_neg hname, takeMember]
    cases rest.fill .error (fun decoder => decoder.ofValue member.2) member.1 slots <;> rfl

/-- One more member, with a new key. -/
theorem takeMember_filled {record : Record α} (hnames : record.names.Nodup)
    (hnew : Value.lookup members key = none) {slots : record.Slots} :
    (∃ before, record.Filled members before ∧
      record.takeMember before (key, value) = .ok slots) ↔
      record.Filled (members ++ [(key, value)]) slots := by
  induction record with
  | done => simp [takeMember, fill, Filled]
  | field first rest ih =>
      obtain ⟨slot, slots⟩ := slots
      rw [names, List.nodup_cons] at hnames
      by_cases hkey : key = first.name
      · subst hkey
        rw [Filled, Value.lookup_append_singleton, if_pos rfl, filled_append_unknown hnames.1]
        constructor
        · rintro ⟨⟨held, others⟩, ⟨hheld, hothers⟩, htake⟩
          rw [hnew] at hheld
          cases hheld
          rw [takeMember_field, if_pos rfl] at htake
          obtain ⟨a, ha, hdone⟩ := except_bind_eq_ok.1 htake
          cases hdone
          exact ⟨except_bind_eq_ok.2 ⟨a, ha, rfl⟩, hothers⟩
        · rintro ⟨hslot, hothers⟩
          obtain ⟨a, ha, hdone⟩ := except_bind_eq_ok.1 hslot
          cases hdone
          refine ⟨(none, slots), ⟨by rw [hnew]; rfl, hothers⟩, ?_⟩
          rw [takeMember_field, if_pos rfl]
          exact except_bind_eq_ok.2 ⟨a, ha, rfl⟩
      · rw [Filled, Value.lookup_append_singleton, if_neg hkey, ← ih hnames.2]
        constructor
        · rintro ⟨⟨held, others⟩, ⟨hheld, hothers⟩, htake⟩
          rw [takeMember_field, if_neg hkey] at htake
          obtain ⟨taken, htaken, hdone⟩ := except_bind_eq_ok.1 htake
          cases hdone
          exact ⟨hheld, others, hothers, htaken⟩
        · rintro ⟨hslot, others, hothers, htaken⟩
          refine ⟨(slot, others), ⟨hslot, hothers⟩, ?_⟩
          rw [takeMember_field, if_neg hkey]
          exact except_bind_eq_ok.2 ⟨slots, htaken, rfl⟩

/-- A member of no field leaves every slot as it is. -/
theorem takeMember_unknown {record : Record α} (hname : key ∉ record.names) (slots : record.Slots) :
    record.takeMember slots (key, value) = .ok slots := by
  induction record with
  | done => rfl
  | field first rest ih =>
      obtain ⟨slot, slots⟩ := slots
      rw [names, List.mem_cons, not_or] at hname
      rw [takeMember_field, if_neg hname.1, ih hname.2]
      rfl

/-- A field is given no second member. -/
theorem takeMember_new {record : Record α} {before slots : record.Slots}
    (hbefore : record.Filled members before) (hname : key ∈ record.names)
    (htake : record.takeMember before (key, value) = .ok slots) :
    Value.lookup members key = none := by
  induction record with
  | done => cases hname
  | field first rest ih =>
      obtain ⟨slot, before⟩ := before
      obtain ⟨hslot, hbefore⟩ := hbefore
      rw [takeMember_field] at htake
      split at htake
      case isTrue hkey =>
        change key = first.name at hkey
        rw [hkey]
        cases slot with
        | some held => cases htake
        | none => exact mapM_eq_ok_none_iff.1 hslot
      case isFalse hkey =>
        obtain ⟨taken, htaken, -⟩ := except_bind_eq_ok.1 htake
        exact ih hbefore ((List.mem_cons.1 hname).resolve_left hkey) htaken

/-- The members that the record has fields for. -/
def named (record : Record γ) (members : List (String × Value)) : List (String × Value) :=
  members.filter fun member => member.1 ∈ record.names

theorem named_append (record : Record α) (members : List (String × Value)) :
    record.named (members ++ [(key, value)]) =
      record.named members ++ if key ∈ record.names then [(key, value)] else [] := by
  rw [named, named, List.filter_append, List.filter_singleton]
  simp

/-- By induction from the end, since each member that a field is given is new to those before
it. -/
theorem foldlM_takeMember_eq_ok_iff {record : Record α} (hnames : record.names.Nodup)
    {slots : record.Slots} : members.foldlM record.takeMember record.noSlots = .ok slots ↔
      Distinct (record.named members) ∧ record.Filled members slots := by
  induction members using List.reverseRecOn generalizing slots with
  | nil =>
      rw [filled_nil_iff]
      constructor
      · exact fun hsame => ⟨List.nodup_nil, (Except.ok.inj hsame).symm⟩
      · exact fun hsame => congrArg Except.ok hsame.2.symm
  | append_singleton members last ih =>
      obtain ⟨key, value⟩ := last
      rw [List.foldlM_append, except_bind_eq_ok, named_append]
      simp only [ih, List.foldlM_cons, List.foldlM_nil, bind_pure]
      by_cases hname : key ∈ record.names
      · have hlookup : Value.lookup (record.named members) key = Value.lookup members key :=
          Value.lookup_filter (fun key => key ∈ record.names) (by simpa using hname)
        rw [if_pos hname, distinct_append_iff, hlookup]
        constructor
        · rintro ⟨before, ⟨hdistinct, hbefore⟩, htake⟩
          have hnew := takeMember_new hbefore hname htake
          exact ⟨⟨hdistinct, hnew⟩, (takeMember_filled hnames hnew).1 ⟨before, hbefore, htake⟩⟩
        · rintro ⟨⟨hdistinct, hnew⟩, hfilled⟩
          obtain ⟨before, hbefore, htake⟩ := (takeMember_filled hnames hnew).2 hfilled
          exact ⟨before, ⟨hdistinct, hbefore⟩, htake⟩
      · rw [if_neg hname, List.append_nil, filled_append_unknown hname]
        simp only [takeMember_unknown hname, Except.ok.injEq, exists_eq_right]

/-- What a field is given: the value of the member of its name, or what stands for its absence. -/
def Given (member : Member α) (found : Option Value) (a : α) : Prop :=
  match found with
  | some value => member.decoder.ofValue value = .ok a
  | none => member.absent = some a

/-- Every field is given its own by the members. -/
def Holds (members : List (String × Value)) : Record γ → γ → Prop
  | .done, _ => True
  | .field first rest, (a, b) =>
    Given first (Value.lookup members first.name) a ∧ rest.Holds members b

theorem given_iff {member : Member α} {found : Option Value} {a : α} :
    Given member found a ↔
      ∃ slot, found.mapM member.decoder.ofValue = .ok slot ∧ slot.or member.absent = some a := by
  cases found with
  | none =>
      constructor
      · exact fun habsent => ⟨none, rfl, habsent⟩
      · rintro ⟨slot, hslot, habsent⟩
        cases hslot
        exact habsent
  | some value =>
      constructor
      · exact fun hvalue => ⟨some a, except_bind_eq_ok.2 ⟨a, hvalue, rfl⟩, rfl⟩
      · rintro ⟨slot, hslot, hsome⟩
        obtain ⟨held, hvalue, hdone⟩ := except_bind_eq_ok.1 hslot
        cases hdone
        cases hsome
        exact hvalue

theorem finish_field {first : Member α} {rest : Record β} {slot : Option α} {slots : rest.Slots}
    {a : α} {b : β} : (Record.field first rest).finish (slot, slots) = .ok (a, b) ↔
      slot.or first.absent = some a ∧ rest.finish slots = .ok b := by
  have hpair : ∀ held : α, (do let b ← rest.finish slots; .ok (held, b) : Except Fault (α × β)) =
      .ok (a, b) ↔ held = a ∧ rest.finish slots = .ok b := by
    intro held
    rw [except_bind_eq_ok]
    constructor
    · rintro ⟨other, hother, hdone⟩
      cases hdone
      exact ⟨rfl, hother⟩
    · rintro ⟨rfl, hb⟩
      exact ⟨b, hb, rfl⟩
  conv =>
    lhs
    unfold finish
  cases slot with
  | some held => exact (hpair held).trans (by simp)
  | none =>
      cases first.absent with
      | some held => exact (hpair held).trans (by simp)
      | none => exact ⟨nofun, nofun⟩

theorem finish_eq_ok {record : Record α} {a : α} :
    (∃ slots, record.Filled members slots ∧ record.finish slots = .ok a) ↔
      record.Holds members a := by
  induction record with
  | done => simp [Filled, Holds, finish]
  | field first rest ih =>
      obtain ⟨a, b⟩ := a
      rw [Holds, given_iff, ← ih]
      constructor
      · rintro ⟨⟨slot, slots⟩, ⟨hslot, hslots⟩, hfinish⟩
        obtain ⟨ha, hb⟩ := finish_field.1 hfinish
        exact ⟨⟨slot, hslot, ha⟩, slots, hslots, hb⟩
      · rintro ⟨⟨slot, hslot, ha⟩, slots, hslots, hb⟩
        exact ⟨(slot, slots), ⟨hslot, hslots⟩, finish_field.2 ⟨ha, hb⟩⟩

/-- A record is read name by name off members of which no two are for one field; members of other
names do not matter. -/
theorem ofMembers_eq_ok_iff {record : Record α} (hnames : record.names.Nodup) {a : α} :
    record.ofMembers members = .ok a ↔
      Distinct (record.named members) ∧ record.Holds members a := by
  rw [ofMembers, except_bind_eq_ok, ← finish_eq_ok]
  simp only [foldlM_takeMember_eq_ok_iff hnames, and_assoc, exists_and_left]

theorem ofMembers_eq_ok {record : Record α} (hnames : record.names.Nodup)
    (hdistinct : Distinct members) {a : α} :
    record.ofMembers members = .ok a ↔ record.Holds members a :=
  (ofMembers_eq_ok_iff hnames).trans (and_iff_right (hdistinct.filter _))

theorem map_ofValue_eq_ok {record : Record α} (hnames : record.names.Nodup)
    (hdistinct : Distinct members) {f : α → β} {b : β} :
    (record.decoder.map f).ofValue (.object members) = .ok b ↔
      ∃ a, record.Holds members a ∧ f a = b := by
  change (record.ofMembers members >>= fun a => .ok (f a)) = .ok b ↔ _
  rw [except_bind_eq_ok]
  simp only [ofMembers_eq_ok hnames hdistinct, Except.ok.injEq]

/-- Members that are written under the names of the fields. -/
theorem ofMembers_written {record : Record α} (hnames : record.names.Nodup)
    (hkeys : members.map Prod.fst = record.names) {a : α} (hholds : record.Holds members a) :
    record.ofMembers members = .ok a := by
  refine (ofMembers_eq_ok hnames ?_).2 hholds
  rw [Distinct, hkeys]
  exact hnames

end Record

end BearerClient.Json
