import BearerClient.Proofs.Time.Delta
import Mathlib.Data.Fin.Tuple.Basic

/-!
# Families of clocks

Clocks are made, copied, advanced and set in any order, and a clock and its copies share one
time.  A history says what has been done.  It is indexed by the number of clocks there are, so it
can only name clocks that exist, and it keeps two accounts for each of them: when its family was
last set, and how much time has been made to pass since, through whichever clock of the family.

Each advance is cut off at the last instant.  All the same a clock shows one exact sum that is cut
off once: nothing but a set leads away from the last instant, and a set clears the account.
-/

namespace BearerClient

/-! ## Moves of an instant -/

/-- A number of milliseconds that fits a machine word is a duration. -/
theorem Duration.nanos_ofMillis (millis : UInt64) :
    (ofMillis millis.toNat).nanos = millis.toNat * 1000000 := by
  have hlt := millis.toNat_lt
  rw [ofMillis, nanos_ofNanos]
  unfold maxNanos
  omega

namespace Instant

variable (t : Instant) (d e : Duration)

theorem nanos_later : (t.later d).nanos = min maxNanos (t.nanos + d.nanos) := by
  have hmin := t.min_le
  have hlast : minNanos ≤ maxNanos := by decide
  rw [later, nanos_clamp]
  omega

theorem le_later : t ≤ t.later d := by
  have hmax := t.le_max
  rw [le_iff, nanos_later]
  omega

theorem later_comm : (t.later d).later e = (t.later e).later d := by
  ext
  simp only [nanos_later]
  omega

/-- Where two durations are too long for one, that one leads past the last instant already. -/
theorem later_later : (t.later d).later e = t.later (.ofNanos (d.nanos + e.nanos)) := by
  have hmin := t.min_le
  ext
  simp only [nanos_later, Duration.nanos_ofNanos]
  unfold minNanos maxNanos Duration.maxNanos at *
  omega

end Instant

namespace Clocks

variable {clocks : Clocks} {clock handle family : Nat}

/-! ## Sharing -/

theorem adjust_of_some (hclock : clocks.families[clock]? = some family)
    (change : Instant → Instant) :
    clocks.adjust clock change = ⟨clocks.times.modify family change, clocks.families⟩ := by
  rw [adjust, hclock]

theorem adjust_of_none (hclock : clocks.families[clock]? = none) (change : Instant → Instant) :
    clocks.adjust clock change = clocks := by
  rw [adjust, hclock]

@[simp] theorem families_adjust (change : Instant → Instant) :
    (clocks.adjust clock change).families = clocks.families := by
  unfold adjust
  split <;> rfl

@[simp] theorem length_times_adjust (change : Instant → Instant) :
    (clocks.adjust clock change).times.length = clocks.times.length := by
  unfold adjust
  split
  · exact List.length_modify ..
  · rfl

theorem time?_of_some (hclock : clocks.families[clock]? = some family) :
    clocks.time? clock = clocks.times[family]? := by
  rw [time?, hclock, Option.bind_some]

/-- A clock does not show what is done to another family. -/
theorem time?_adjust_of_ne (hfamily : clocks.families[handle]? ≠ clocks.families[clock]?)
    (change : Instant → Instant) :
    (clocks.adjust clock change).time? handle = clocks.time? handle := by
  cases hclock : clocks.families[clock]? with
  | none => rw [adjust_of_none hclock]
  | some own =>
      have hafter : (clocks.adjust clock change).families[handle]? = clocks.families[handle]? := by
        rw [families_adjust]
      cases hhandle : clocks.families[handle]? with
      | none => rw [time?, time?, hafter, hhandle, Option.bind_none, Option.bind_none]
      | some other =>
          have hne : own ≠ other := fun heq => hfamily (by rw [hclock, hhandle, heq])
          rw [time?_of_some (hafter.trans hhandle), time?_of_some hhandle,
            adjust_of_some hclock, List.getElem?_modify_ne _ _ hne]

/-- What is done to a family twice is done to it in one go. -/
theorem adjust_adjust (hfamily : clocks.families[clock]? = clocks.families[handle]?)
    (first second : Instant → Instant) :
    (clocks.adjust clock first).adjust handle second = clocks.adjust clock (second ∘ first) := by
  cases hclock : clocks.families[clock]? with
  | none =>
      have hhandle := hfamily.symm.trans hclock
      rw [adjust_of_none hclock, adjust_of_none hclock, adjust_of_none hhandle]
  | some family =>
      have hhandle : (clocks.adjust clock first).families[handle]? = some family := by
        rw [families_adjust, ← hfamily, hclock]
      rw [adjust_of_some hhandle, adjust_of_some hclock, adjust_of_some hclock,
        List.modify_modify_eq]

/-- What is done to two families is done in either order. -/
theorem adjust_comm_of_ne (hfamily : clocks.families[clock]? ≠ clocks.families[handle]?)
    (first second : Instant → Instant) :
    (clocks.adjust clock first).adjust handle second =
      (clocks.adjust handle second).adjust clock first := by
  cases hclock : clocks.families[clock]? with
  | none =>
      rw [adjust_of_none hclock]
      exact (adjust_of_none (by rwa [families_adjust]) _).symm
  | some own =>
      cases hhandle : clocks.families[handle]? with
      | none =>
          rw [adjust_of_none hhandle]
          exact adjust_of_none (by rwa [families_adjust]) _
      | some other =>
          have hne : own ≠ other := fun heq => hfamily (by rw [hclock, hhandle, heq])
          have hfirst : (clocks.adjust clock first).families[handle]? = some other := by
            rw [families_adjust, hhandle]
          have hsecond : (clocks.adjust handle second).families[clock]? = some own := by
            rw [families_adjust, hclock]
          rw [adjust_of_some hfirst, adjust_of_some hsecond, adjust_of_some hclock,
            adjust_of_some hhandle, List.modify_modify_ne _ _ _ hne]

/-- A clock that there was before one more was made still shows its time. -/
theorem time?_of_append {next : Clocks}
    (hwhole : ∀ own ∈ clocks.families, own < clocks.times.length)
    (hfamilies : next.families = clocks.families ++ [family]) (htimes : clocks.times <+: next.times)
    (hlt : handle < clocks.families.length) : next.time? handle = clocks.time? handle := by
  have hold : clocks.families[handle]? = some clocks.families[handle] :=
    List.getElem?_eq_getElem hlt
  have hnext : next.families[handle]? = some clocks.families[handle] := by
    rw [hfamilies, List.getElem?_append_left hlt, hold]
  obtain ⟨more, hmore⟩ := htimes
  rw [time?_of_some hnext, time?_of_some hold, ← hmore]
  exact List.getElem?_append_left (hwhole _ (List.getElem_mem hlt))

theorem time?_of_append_length {next : Clocks}
    (hfamilies : next.families = clocks.families ++ [family]) :
    next.time? clocks.families.length = next.times[family]? :=
  time?_of_some (by rw [hfamilies, List.getElem?_concat_length])

theorem copy_of_some (hclock : clocks.families[clock]? = some family) :
    clocks.copy clock = ⟨clocks.times, clocks.families ++ [family]⟩ := by
  rw [copy, hclock]

/-- Advances commute, within a family and across families. -/
theorem advance_comm (clocks : Clocks) (clock handle : Nat) (d e : Duration) :
    (clocks.advance clock d).advance handle e = (clocks.advance handle e).advance clock d := by
  by_cases hfamily : clocks.families[clock]? = clocks.families[handle]?
  · calc (clocks.advance clock d).advance handle e
        = clocks.adjust clock fun t => (t.later d).later e := adjust_adjust hfamily _ _
      _ = clocks.adjust clock fun t => (t.later e).later d := by
          simp only [Instant.later_comm _ d e]
      _ = clocks.adjust handle fun t => (t.later e).later d := by
          rw [adjust, adjust, hfamily]
      _ = (clocks.advance handle e).advance clock d :=
          (adjust_adjust hfamily.symm (·.later e) (·.later d)).symm
  · exact adjust_comm_of_ne hfamily _ _

/-- Advances of a family add up. -/
theorem advance_advance (hfamily : clocks.families[clock]? = clocks.families[handle]?)
    (d e : Duration) :
    (clocks.advance clock d).advance handle e =
      clocks.advance clock (.ofNanos (d.nanos + e.nanos)) :=
  calc (clocks.advance clock d).advance handle e
      = clocks.adjust clock fun t => (t.later d).later e := adjust_adjust hfamily _ _
    _ = clocks.advance clock (.ofNanos (d.nanos + e.nanos)) := by
        simp only [Instant.later_later]
        rfl

end Clocks

/-! ## Histories -/

/-- What has been done to a number of clocks, from the first one on. -/
inductive Clocks.History : Nat → Type
  | empty : History 0
  /-- a new clock, in a family of its own -/
  | start {n : Nat} (past : History n) (time : Instant) : History (n + 1)
  | copy {n : Nat} (past : History n) (clock : Fin n) : History (n + 1)
  | advance {n : Nat} (past : History n) (clock : Fin n) (by_ : Duration) : History n
  | advanceMillis {n : Nat} (past : History n) (clock : Fin n) (millis : UInt64) : History n
  | set {n : Nat} (past : History n) (clock : Fin n) (time : Instant) : History n

namespace Clocks.History

variable {n m : Nat} {past : History n}

/-- The clocks at the end of a history. -/
def clocks : {n : Nat} → History n → Clocks
  | _, .empty => ⟨[], []⟩
  | _, .start past time => past.clocks.add time
  | _, .copy past clock => past.clocks.copy clock
  | _, .advance past clock by_ => past.clocks.advance clock by_
  | _, .advanceMillis past clock millis => past.clocks.advance clock (.ofMillis millis.toNat)
  | _, .set past clock time => past.clocks.set clock time

/-- The clock that the family of a clock began with. -/
def eldest : {n : Nat} → History n → Fin n → Fin n
  | _, .empty => Fin.elim0
  | n + 1, .start past _ => Fin.snoc (Fin.castSucc ∘ past.eldest) (Fin.last n)
  | _, .copy past clock => Fin.snoc (Fin.castSucc ∘ past.eldest) (past.eldest clock).castSucc
  | _, .advance past _ _ => past.eldest
  | _, .advanceMillis past _ _ => past.eldest
  | _, .set past _ _ => past.eldest

/-- Two clocks are of one family: one is a copy of the other, or of a copy of it, or both are
copies of a third one. -/
def Kin (past : History n) (a b : Fin n) : Prop := past.eldest a = past.eldest b

instance (past : History n) (a b : Fin n) : Decidable (past.Kin a b) :=
  inferInstanceAs (Decidable (_ = _))

/-- When a clock was last set through a clock of its family, or else the start of the family. -/
def since : {n : Nat} → History n → Fin n → Instant
  | _, .empty => Fin.elim0
  | _, .start past time => Fin.snoc past.since time
  | _, .copy past clock => Fin.snoc past.since (past.since clock)
  | _, .advance past _ _ => past.since
  | _, .advanceMillis past _ _ => past.since
  | _, .set past clock time => fun handle =>
      if past.Kin handle clock then time else past.since handle

/-- How many nanoseconds a clock was advanced since, through all clocks of its family. -/
def passed : {n : Nat} → History n → Fin n → Nat
  | _, .empty => Fin.elim0
  | _, .start past _ => Fin.snoc past.passed 0
  | _, .copy past clock => Fin.snoc past.passed (past.passed clock)
  | _, .advance past clock by_ => fun handle =>
      past.passed handle + if past.Kin handle clock then by_.nanos else 0
  | _, .advanceMillis past clock millis => fun handle =>
      past.passed handle + if past.Kin handle clock then millis.toNat * 1000000 else 0
  | _, .set past clock _ => fun handle =>
      if past.Kin handle clock then 0 else past.passed handle

/-- The exact sum, cut off at the last instant. -/
def reading (past : History n) (handle : Fin n) : Instant where
  nanos := min Instant.maxNanos ((past.since handle).nanos + past.passed handle)
  min_le := by
    have hmin := (past.since handle).min_le
    have hlast : Instant.minNanos ≤ Instant.maxNanos := by decide
    omega
  le_max := Int.min_le_left ..

/-! ## What clocks show -/

/-- The families are numbered: two clocks have one number if they began with one clock. -/
structure Numbers (families : List Nat) (eldest : Fin n → Fin n) : Prop where
  length : families.length = n
  kin : ∀ a b : Fin n, families[a.val]? = families[b.val]? ↔ eldest a = eldest b

theorem Numbers.snoc {families : List Nat} {eldest : Fin n → Fin n} {family : Nat}
    {own : Fin (n + 1)} (hnumbers : Numbers families eldest)
    (hown : ∀ b : Fin n, families[b.val]? = some family ↔ (eldest b).castSucc = own) :
    Numbers (families ++ [family])
      (Fin.snoc (α := fun _ => Fin (n + 1)) (Fin.castSucc ∘ eldest) own) := by
  have hold : ∀ a : Fin n, (families ++ [family])[a.castSucc.val]? = families[a.val]? := fun a =>
    List.getElem?_append_left (by rw [hnumbers.length]; exact a.isLt)
  have hnew : (families ++ [family])[(Fin.last n).val]? = some family := by
    rw [Fin.val_last, ← hnumbers.length]
    exact List.getElem?_concat_length
  constructor
  · rw [List.length_append, hnumbers.length, List.length_singleton]
  · intro a b
    induction a using Fin.lastCases with
    | last =>
        induction b using Fin.lastCases with
        | last => exact iff_of_true rfl rfl
        | cast b =>
            rw [hold, hnew, Fin.snoc_last, Fin.snoc_castSucc, eq_comm, hown b]
            exact eq_comm
    | cast a =>
        induction b using Fin.lastCases with
        | last => rw [hold, hnew, Fin.snoc_last, Fin.snoc_castSucc, hown a, Function.comp_apply]
        | cast b =>
            rw [hold, hold, Fin.snoc_castSucc, Fin.snoc_castSucc, hnumbers.kin]
            exact Fin.castSucc_inj.symm

/-- The accounts of a history are right. -/
structure Accounts (past : History n) : Prop where
  numbers : Numbers past.clocks.families past.eldest
  whole : ∀ family ∈ past.clocks.families, family < past.clocks.times.length
  reads : ∀ handle : Fin n, past.clocks.time? handle = some (past.reading handle)

section Reading

variable (past : History n) (handle clock : Fin n) (d : Duration) (millis : UInt64) (time : Instant)

theorem nanos_reading : (past.reading handle).nanos =
    min Instant.maxNanos ((past.since handle).nanos + past.passed handle) := rfl

theorem passed_advance : (past.advance clock d).passed handle =
    past.passed handle + if past.Kin handle clock then d.nanos else 0 := rfl

theorem passed_advanceMillis : (past.advanceMillis clock millis).passed handle =
    (past.advance clock (.ofMillis millis.toNat)).passed handle := by
  rw [passed_advance, Duration.nanos_ofMillis]
  rfl

theorem since_set : (past.set clock time).since handle =
    if past.Kin handle clock then time else past.since handle := rfl

theorem passed_set : (past.set clock time).passed handle =
    if past.Kin handle clock then 0 else past.passed handle := rfl

variable {past handle}

theorem reading_congr {next : History m} {other : Fin m}
    (hsince : next.since other = past.since handle)
    (hpassed : next.passed other = past.passed handle) :
    next.reading other = past.reading handle := by
  ext
  rw [nanos_reading, nanos_reading, hsince, hpassed]

variable (past handle)

theorem reading_start : (past.start time).reading handle.castSucc = past.reading handle :=
  reading_congr (Fin.snoc_castSucc ..) (Fin.snoc_castSucc ..)

theorem reading_start_last : (past.start time).reading (Fin.last n) = time := by
  have hmax := time.le_max
  have hsince : (past.start time).since (Fin.last n) = time := Fin.snoc_last ..
  have hpassed : (past.start time).passed (Fin.last n) = 0 := Fin.snoc_last ..
  ext
  rw [nanos_reading, hsince, hpassed]
  omega

theorem reading_copy : (past.copy clock).reading handle.castSucc = past.reading handle :=
  reading_congr (Fin.snoc_castSucc ..) (Fin.snoc_castSucc ..)

theorem reading_copy_last : (past.copy clock).reading (Fin.last n) = past.reading clock :=
  reading_congr (Fin.snoc_last ..) (Fin.snoc_last ..)

theorem reading_advance : (past.advance clock d).reading handle =
    if past.Kin handle clock then (past.reading handle).later d else past.reading handle := by
  have hsince : (past.advance clock d).since handle = past.since handle := rfl
  split
  · rename_i hkin
    have hpassed : (past.advance clock d).passed handle = past.passed handle + d.nanos := by
      rw [passed_advance, if_pos hkin]
    ext
    rw [Instant.nanos_later, nanos_reading, nanos_reading, hsince, hpassed]
    omega
  · rename_i hother
    exact reading_congr hsince (by rw [passed_advance, if_neg hother, Nat.add_zero])

theorem reading_advanceMillis : (past.advanceMillis clock millis).reading handle =
    (past.advance clock (.ofMillis millis.toNat)).reading handle :=
  reading_congr rfl (passed_advanceMillis ..)

theorem reading_set : (past.set clock time).reading handle =
    if past.Kin handle clock then time else past.reading handle := by
  split
  · rename_i hkin
    have hmax := time.le_max
    ext
    rw [nanos_reading, since_set, passed_set, if_pos hkin, if_pos hkin]
    omega
  · rename_i hother
    exact reading_congr (by rw [since_set, if_neg hother]) (by rw [passed_set, if_neg hother])

end Reading

/-- One more clock keeps the accounts right. -/
theorem Accounts.append (haccounts : past.Accounts) {next : History (n + 1)} {family : Nat}
    {own : Fin (n + 1)}
    (hfamilies : next.clocks.families = past.clocks.families ++ [family])
    (htimes : past.clocks.times <+: next.clocks.times)
    (heldest : next.eldest = Fin.snoc (Fin.castSucc ∘ past.eldest) own)
    (hown : ∀ b : Fin n,
      past.clocks.families[b.val]? = some family ↔ (past.eldest b).castSucc = own)
    (hold : ∀ handle : Fin n, next.reading handle.castSucc = past.reading handle)
    (hnew : next.clocks.times[family]? = some (next.reading (Fin.last n))) :
    next.Accounts := by
  have hlength := haccounts.numbers.length
  constructor
  · rw [hfamilies, heldest]
    exact haccounts.numbers.snoc hown
  · intro other hother
    rw [hfamilies] at hother
    rcases List.mem_append.mp hother with hmem | hmem
    · exact Nat.lt_of_lt_of_le (haccounts.whole other hmem) htimes.length_le
    · rw [List.mem_singleton.mp hmem]
      exact (List.getElem?_eq_some_iff.mp hnew).1
  · intro handle
    induction handle using Fin.lastCases with
    | last =>
        rw [← hnew, ← time?_of_append_length hfamilies, hlength, Fin.val_last]
    | cast handle =>
        have hlt : handle.val < past.clocks.families.length := by
          rw [hlength]
          exact handle.isLt
        rw [hold, ← haccounts.reads handle, Fin.val_castSucc]
        exact time?_of_append haccounts.whole hfamilies htimes hlt

/-- What is done to the time of a family keeps the accounts right. -/
theorem Accounts.adjust (haccounts : past.Accounts) {next : History n} {clock : Fin n}
    {change : Instant → Instant}
    (hclocks : next.clocks = past.clocks.adjust clock change) (heldest : next.eldest = past.eldest)
    (hreading : ∀ handle, next.reading handle =
      if past.Kin handle clock then change (past.reading handle) else past.reading handle) :
    next.Accounts := by
  constructor
  · rw [hclocks, families_adjust, heldest]
    exact haccounts.numbers
  · rw [hclocks, families_adjust, length_times_adjust]
    exact haccounts.whole
  · intro handle
    rw [hclocks, hreading]
    split
    · rename_i hkin
      have hfamily := (haccounts.numbers.kin handle clock).mpr hkin
      rw [time?_adjust hfamily.symm, haccounts.reads, Option.map_some]
    · rename_i hother
      have hfamily := mt (haccounts.numbers.kin handle clock).mp hother
      rw [time?_adjust_of_ne hfamily, haccounts.reads]

theorem Accounts.start (haccounts : past.Accounts) (time : Instant) :
    (past.start time).Accounts := by
  refine haccounts.append rfl (List.prefix_append ..) rfl (fun b => ?_)
    (fun handle => past.reading_start handle time) ?_
  · refine iff_of_false (fun hfamily => ?_) (Fin.castSucc_ne_last _)
    exact Nat.lt_irrefl _ (haccounts.whole _ (List.mem_of_getElem? hfamily))
  · rw [reading_start_last]
    exact List.getElem?_concat_length

theorem Accounts.copy (haccounts : past.Accounts) (clock : Fin n) :
    (past.copy clock).Accounts := by
  have hlt : clock.val < past.clocks.families.length := by
    rw [haccounts.numbers.length]
    exact clock.isLt
  have hclock : past.clocks.families[clock.val]? = some past.clocks.families[clock.val] :=
    List.getElem?_eq_getElem hlt
  have hclocks : (past.copy clock).clocks = _ := copy_of_some hclock
  refine haccounts.append (by rw [hclocks]) ?_ rfl (fun b => ?_)
    (fun handle => past.reading_copy handle clock) ?_
  · exact ⟨[], by rw [hclocks, List.append_nil]⟩
  · rw [← hclock, haccounts.numbers.kin]
    exact Fin.castSucc_inj.symm
  · rw [hclocks, reading_copy_last, ← haccounts.reads clock, time?_of_some hclock]

/-- The accounts of every history are right, by what each step does to them. -/
theorem accounts : {n : Nat} → (past : History n) → past.Accounts
  | _, .empty => ⟨⟨rfl, fun a => a.elim0⟩, fun _ hfamily => (nomatch hfamily), fun a => a.elim0⟩
  | _, .start past time => (accounts past).start time
  | _, .copy past clock => (accounts past).copy clock
  | _, .advance past clock d =>
      (accounts past).adjust rfl rfl fun handle => past.reading_advance handle clock d
  | _, .advanceMillis past clock millis =>
      (accounts past).adjust rfl rfl fun handle =>
        (past.reading_advanceMillis handle clock millis).trans (past.reading_advance handle clock _)
  | _, .set past clock time =>
      (accounts past).adjust rfl rfl fun handle => past.reading_set handle clock time

/-! ## Later histories -/

/-- A history goes on, and no clock of the family of `handle` is set any more.  In it the clock has
the handle `clock`, or this is a copy of it. -/
inductive Unset {n : Nat} (past : History n) (handle : Fin n) :
    {m : Nat} → History m → Fin m → Prop
  | refl : Unset past handle past handle
  | start {m : Nat} {later : History m} {clock : Fin m} (time : Instant) :
      Unset past handle later clock → Unset past handle (later.start time) clock.castSucc
  | copy {m : Nat} {later : History m} {clock : Fin m} (other : Fin m) :
      Unset past handle later clock → Unset past handle (later.copy other) clock.castSucc
  | copied {m : Nat} {later : History m} {clock : Fin m} :
      Unset past handle later clock → Unset past handle (later.copy clock) (Fin.last m)
  | advance {m : Nat} {later : History m} {clock : Fin m} (other : Fin m) (d : Duration) :
      Unset past handle later clock → Unset past handle (later.advance other d) clock
  | advanceMillis {m : Nat} {later : History m} {clock : Fin m} (other : Fin m)
      (millis : UInt64) :
      Unset past handle later clock → Unset past handle (later.advanceMillis other millis) clock
  | set {m : Nat} {later : History m} {clock other : Fin m} (time : Instant) :
      ¬ later.Kin clock other →
      Unset past handle later clock → Unset past handle (later.set other time) clock

theorem le_reading_advance (past : History n) (handle clock : Fin n) (d : Duration) :
    past.reading handle ≤ (past.advance clock d).reading handle := by
  rw [reading_advance]
  split
  · exact Instant.le_later ..
  · exact Int.le_refl _

theorem Unset.le {handle : Fin n} {later : History m} {clock : Fin m}
    (hunset : Unset past handle later clock) : past.reading handle ≤ later.reading clock := by
  induction hunset with
  | refl => exact Int.le_refl _
  | start time _ ih => rwa [reading_start]
  | copy other _ ih => rwa [reading_copy]
  | copied _ ih => rwa [reading_copy_last]
  | advance other d _ ih => exact Int.le_trans ih (le_reading_advance ..)
  | advanceMillis other millis _ ih =>
      rw [reading_advanceMillis]
      exact Int.le_trans ih (le_reading_advance ..)
  | set time hother _ ih => rwa [reading_set, if_neg hother]

/-- The law of clocks that are set by hand. -/
structure Lawful (past : History n) : Prop where
  /-- A clock shows the exact sum of what its family was set to and advanced by since, cut off at
  the last instant. -/
  shows : ∀ handle : Fin n, ∃ t, past.clocks.time? handle = some t ∧
    t.nanos = min Instant.maxNanos ((past.since handle).nanos + past.passed handle)
  /-- An advance is made in two steps, each of which is cut off by itself: by the longest delta
  where the duration is none, and to the last instant where nothing lies that far ahead. -/
  inSteps : ∀ (clock : Fin n) (d : Duration),
    (past.advance clock d).clocks = past.clocks.adjust clock fun time =>
      (time.plus? ((Delta.ofDuration? d).getD .longest)).getD .last
  /-- Nothing that is done to one family changes what a clock of another shows. -/
  apart : ∀ handle clock : Fin n, ¬ past.Kin handle clock →
    (∀ d, (past.advance clock d).clocks.time? handle = past.clocks.time? handle) ∧
    (∀ millis, (past.advanceMillis clock millis).clocks.time? handle = past.clocks.time? handle) ∧
    ∀ time, (past.set clock time).clocks.time? handle = past.clocks.time? handle
  /-- Neither does a new clock or a copy. -/
  more : ∀ handle : Fin n,
    (∀ time, (past.start time).clocks.time? handle = past.clocks.time? handle) ∧
    ∀ clock, (past.copy clock).clocks.time? handle = past.clocks.time? handle
  /-- Advances commute, in one family and across families. -/
  commute : ∀ (a b : Fin n) (d e : Duration),
    ((past.advance a d).advance b e).clocks = ((past.advance b e).advance a d).clocks
  /-- Two advances of a family are one, by the sum or else by the longest duration. -/
  compose : ∀ (a b : Fin n) (d e : Duration), past.Kin a b →
    ((past.advance a d).advance b e).clocks =
      (past.advance a (.ofNanos (d.nanos + e.nanos))).clocks
  /-- As long as its family is not set, a clock does not go back. -/
  forward : ∀ (handle : Fin n) {m : Nat} (later : History m) (clock : Fin m),
    Unset past handle later clock →
    ∃ before after, past.clocks.time? handle = some before ∧
      later.clocks.time? clock = some after ∧ before ≤ after

theorem time?_congr {next : History m} {handle : Fin n} {clock : Fin m}
    (hreading : next.reading clock = past.reading handle) :
    next.clocks.time? clock = past.clocks.time? handle := by
  rw [next.accounts.reads, past.accounts.reads, hreading]

/-- Whatever has been done to any number of clocks, they obey the law. -/
theorem obeys_law (past : History n) : past.Lawful where
  shows handle := ⟨past.reading handle, past.accounts.reads handle, nanos_reading ..⟩
  inSteps clock d := advance_eq ..
  apart handle clock hother := by
    refine ⟨fun d => time?_congr ?_, fun millis => time?_congr ?_, fun time => time?_congr ?_⟩
    · rw [reading_advance, if_neg hother]
    · rw [reading_advanceMillis, reading_advance, if_neg hother]
    · rw [reading_set, if_neg hother]
  more handle := ⟨fun time => time?_congr (past.reading_start handle time),
    fun clock => time?_congr (past.reading_copy handle clock)⟩
  commute a b d e := advance_comm ..
  compose a b d e hkin := advance_advance ((past.accounts.numbers.kin a b).mpr hkin) d e
  forward handle m later clock hunset :=
    ⟨_, _, past.accounts.reads handle, later.accounts.reads clock, hunset.le⟩

/-- A copy is advanced past the last instant, the clock itself is set back, and the copy is
advanced again, which a third clock does not show. -/
theorem obeys_law_shared :
    let past : History 3 := ((((((History.empty.start .epoch).copy 0).start .epoch).advance 1
      .max).set 0 .epoch).advanceMillis 1 250)
    past.Kin 0 1 ∧ ¬ past.Kin 2 1 ∧
      (∃ t, past.clocks.time? 0 = some t ∧ t.nanos = 250000000) ∧
      (past.advance 1 .max).clocks.time? 2 = past.clocks.time? 2 := by
  intro past
  obtain ⟨t, ht, hnanos⟩ := (obeys_law past).shows 0
  have hother : ¬ past.Kin 2 1 := by decide
  exact ⟨by decide, hother, ⟨t, ht, hnanos.trans (by decide)⟩,
    ((obeys_law past).apart 2 1 hother).1 .max⟩

end Clocks.History
end BearerClient
