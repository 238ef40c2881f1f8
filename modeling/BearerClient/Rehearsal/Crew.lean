import BearerClient.Client
import BearerClient.Rehearsal.Script
import BearerClient.Renewal

/-!
# Programs side by side

Several programs share one store, one lock and one scripted backend, on a time line of
milliseconds.  A program runs until it has to wait: for the lock, for a time to pass or for an
answer, which comes a fixed latency after its request.  The lock is handed on in the order in which
it was asked for.  When all programs wait, time moves on to the next event.
-/

namespace BearerClient.Rehearsal

/-- A member of the crew: one of the calls that run together, or the renewal task. -/
inductive Member where
  | call (index : Nat)
  | renewal
  deriving DecidableEq

/-- Where a program stands. -/
inductive Progress (α : Type) where
  | ready (program : Program α)
  /-- in the queue for the lock -/
  | queued (next : Program α)
  | asleep (wakes : Nat) (next : Program α)
  | inFlight (arrives : Nat) (request : Wire.Request)
      (next : Except TransportFault Wire.Response → Program α)
  | finished (time : Nat) (result : Option α)

/-- What the members share. -/
structure Floor where
  script : Script
  /-- the milliseconds between a request and its answer -/
  latency : Nat
  /-- the instant at which the time line starts -/
  start : Instant
  /-- milliseconds since then -/
  elapsed : Nat := 0
  credential : Credential := .blank
  /-- whose lines the answers so far were -/
  answered : List String := []
  /-- all requests with the times at which they were sent -/
  sent : List (Nat × Wire.Request) := []
  holder : Option Member := none
  queue : List Member := []

namespace Floor

def now (floor : Floor) : Instant := floor.start.later (.ofMillis floor.elapsed)

def stage (floor : Floor) : Stage := ⟨floor.now, floor.answered⟩

/-- Takes the answer to a request from the script. -/
def answer (floor : Floor) (request : Wire.Request) :
    Except TransportFault Wire.Response × Floor :=
  let (response, stage) := floor.script.answer floor.stage request
  (response, { floor with answered := stage.answered })

/-- Gives the lock to the first in the queue. -/
def release (floor : Floor) : Floor :=
  match floor.queue with
  | [] => { floor with holder := none }
  | member :: queue => { floor with holder := some member, queue }

/-- Takes a member off the lock and its queue. -/
def leave (floor : Floor) (member : Member) : Floor :=
  let floor := if floor.holder = some member then floor.release else floor
  { floor with queue := floor.queue.filter (· ≠ member) }

end Floor

/-- A duration in whole milliseconds, a part of one counting as one. -/
def wholeMillis (time : Duration) : Nat := (time.nanos + 999999) / 1000000

/-- Runs a program until it has to wait. -/
def proceed (member : Member) : Program α → Floor → Progress α × Floor
  | .done a, floor => (.finished floor.elapsed (some a), floor)
  | .abort, floor => (.finished floor.elapsed none, floor)
  | .ask .now next, floor => proceed member (next floor.now) floor
  | .ask .credential next, floor => proceed member (next floor.credential) floor
  | .ask (.replace credential) next, floor => proceed member (next ()) { floor with credential }
  | .ask .lock next, floor =>
    if floor.holder.isNone then proceed member (next ()) { floor with holder := some member }
    else (.queued (next ()), { floor with queue := floor.queue ++ [member] })
  | .ask .unlock next, floor => proceed member (next ()) floor.release
  | .ask (.send request) next, floor =>
    let floor := { floor with sent := floor.sent ++ [(floor.elapsed, request)] }
    if floor.latency = 0 then
      let (response, floor) := floor.answer request
      proceed member (next response) floor
    else (.inFlight (floor.elapsed + floor.latency) request next, floor)
  | .ask (.wait time) next, floor =>
    if wholeMillis time = 0 then proceed member (next ()) floor
    else (.asleep (floor.elapsed + wholeMillis time) (next ()), floor)

namespace Progress

def isFinished : Progress α → Bool
  | finished .. => true
  | _ => false

/-- When a program that waits for a time goes on. -/
def due : Progress α → Option Nat
  | asleep time _ | inFlight time _ _ => some time
  | _ => none

/-- Whether a program can go on. -/
def canMove (member : Member) (floor : Floor) : Progress α → Bool
  | ready _ => true
  | queued _ => floor.holder = some member
  | asleep time _ | inFlight time _ _ => time ≤ floor.elapsed
  | finished .. => false

/-- Lets a program go on if it can. -/
def move (member : Member) (progress : Progress α) (floor : Floor) : Progress α × Floor :=
  if progress.canMove member floor then
    match progress with
    | ready program | queued program | asleep _ program => proceed member program floor
    | inFlight _ request next =>
      let (response, floor) := floor.answer request
      proceed member (next response) floor
    | finished time result => (finished time result, floor)
  else (progress, floor)

end Progress

/-! ## Calls that run together -/

/-- A call of a crew: it may be cancelled at some time. -/
structure Part where
  member : Member
  progress : Progress (Except Failure Operation.Result)
  cancelAt : Option Nat := none

namespace Part

def isCancelled (part : Part) (floor : Floor) : Bool :=
  !part.progress.isFinished && part.cancelAt.any (· ≤ floor.elapsed)

def canMove (part : Part) (floor : Floor) : Bool :=
  part.isCancelled floor || part.progress.canMove part.member floor

/-- Lets a call go on.  A cancelled call is dropped where it stands. -/
def move (part : Part) (floor : Floor) : Part × Floor :=
  if part.isCancelled floor then
    ({ part with progress := .finished floor.elapsed (some (.error .cancelled)) },
      floor.leave part.member)
  else
    let (progress, floor) := part.progress.move part.member floor
    ({ part with progress }, floor)

/-- The times at which something may happen to the call. -/
def events (part : Part) : List Nat :=
  if part.progress.isFinished then [] else part.progress.due.toList ++ part.cancelAt.toList

/-- When the call ended and with what. -/
def outcome : Part → Nat × Option (Except Failure Operation.Result)
  | ⟨_, .finished time result, _⟩ => (time, result)
  | _ => (0, none)

end Part

structure Crew where
  config : Config
  pace : Renewal
  floor : Floor
  renewal : Option (Progress Duration) := none
  calls : List Part := []

namespace Crew

/-- Lets each call go on, one after the other. -/
def moveParts : List Part → Floor → List Part × Floor
  | [], floor => ([], floor)
  | part :: parts, floor =>
    let (part, floor) := part.move floor
    let (parts, floor) := moveParts parts floor
    (part :: parts, floor)

def moveCalls (crew : Crew) : Crew :=
  let (calls, floor) := moveParts crew.calls crew.floor
  { crew with calls, floor }

/-- Lets the renewal task go on.  After an iteration comes another. -/
def moveRenewal (crew : Crew) : Crew :=
  match crew.renewal with
  | none => crew
  | some progress =>
    let (progress, floor) := progress.move .renewal crew.floor
    let progress := match progress with
      | .finished _ (some least) => .ready (crew.pace.iteration crew.config least)
      | progress => progress
    { crew with renewal := some progress, floor }

def callsCanMove (crew : Crew) : Bool := crew.calls.any (·.canMove crew.floor)

def renewalCanMove (crew : Crew) : Bool :=
  crew.renewal.any (·.canMove .renewal crew.floor)

/-- The time of the next event. -/
def nextEvent (crew : Crew) : Option Nat :=
  (crew.calls.flatMap (·.events) ++ (crew.renewal.bind (·.due)).toList).min?

/-- Goes on until all calls have ended, for a number of turns at most.  The renewal task runs while
the calls wait. -/
def advance : (turns : Nat) → Crew → Crew
  | 0, crew => crew
  | turns + 1, crew =>
    let crew := crew.moveCalls
    if crew.calls.all (·.progress.isFinished) then crew
    else if crew.callsCanMove then advance turns crew
    else
      let crew := crew.moveRenewal
      if crew.callsCanMove || crew.renewalCanMove then advance turns crew
      else match crew.nextEvent with
        | some time => advance turns { crew with floor.elapsed := time }
        | none => crew

/-- More turns than any rehearsal takes. -/
def turns : Nat := 1000000000000000000

/-- What is to be run: an operation after some time, to be cancelled some time later. -/
structure Task where
  program : Call Operation.Result
  after : Duration := .zero
  cancelAfter : Option Duration := none

/-- A task as a call that starts now. -/
def part (crew : Crew) (index : Nat) (task : Task) : Part where
  member := .call index
  progress := .ready do
    Program.query (.wait task.after)
    task.program.run
  cancelAt := task.cancelAfter.map fun time =>
    crew.floor.elapsed + wholeMillis task.after + wholeMillis time

/-- Runs tasks together, and gives for each the time of its end and its result. -/
def join (crew : Crew) (tasks : List Task) :
    List (Nat × Option (Except Failure Operation.Result)) × Crew :=
  let calls := tasks.zipIdx.map fun (task, index) => crew.part index task
  let crew := advance turns { crew with calls }
  (crew.calls.map Part.outcome, { crew with calls := [] })

/-- Lets time pass. -/
def sleep (crew : Crew) (time : Duration) : Crew :=
  (crew.join [⟨pure .nothing, time, none⟩]).2

/-- Starts the renewal task unless it runs. -/
def startRenewal (crew : Crew) : Crew :=
  if crew.renewal.isSome then crew
  else { crew with renewal := some (.ready (crew.pace.iteration crew.config .zero)) }

/-- Ends the renewal task where it stands. -/
def stopRenewal (crew : Crew) : Crew :=
  { crew with renewal := none, floor := crew.floor.leave .renewal }

end Crew
end BearerClient.Rehearsal
