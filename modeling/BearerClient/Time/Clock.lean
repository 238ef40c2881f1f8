import BearerClient.Time.Instant

/-!
# Clocks that are set by hand

A clock stands still until it is advanced or set.  A copy of a clock shares its time with the
clock it was copied from, and with all other copies; clocks made afresh share nothing.  So the
clocks fall into families, each with one time.
-/

namespace BearerClient

structure Clocks where
  /-- the time of each family -/
  times : List Instant
  /-- the family of each clock -/
  families : List Nat

namespace Clocks

/-- One clock. -/
def single (start : Instant) : Clocks := ⟨[start], [0]⟩

/-- A new clock in a family of its own. -/
def add (clocks : Clocks) (start : Instant) : Clocks :=
  ⟨clocks.times ++ [start], clocks.families ++ [clocks.times.length]⟩

/-- A copy of a clock. -/
def copy (clocks : Clocks) (clock : Nat) : Clocks :=
  match clocks.families[clock]? with
  | some family => { clocks with families := clocks.families ++ [family] }
  | none => clocks

/-- Changes the time of a clock, and with it that of its family. -/
def adjust (clocks : Clocks) (clock : Nat) (change : Instant → Instant) : Clocks :=
  match clocks.families[clock]? with
  | some family => { clocks with times := clocks.times.modify family change }
  | none => clocks

def advance (clocks : Clocks) (clock : Nat) (by_ : Duration) : Clocks :=
  clocks.adjust clock (·.later by_)

def set (clocks : Clocks) (clock : Nat) (time : Instant) : Clocks :=
  clocks.adjust clock fun _ => time

/-- What a clock shows. -/
def time? (clocks : Clocks) (clock : Nat) : Option Instant :=
  clocks.families[clock]?.bind fun family => clocks.times[family]?

/-- What every clock shows, in the order in which they were made. -/
def readings (clocks : Clocks) : List Instant :=
  clocks.families.filterMap fun family => clocks.times[family]?

end Clocks
end BearerClient
