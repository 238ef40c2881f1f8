import BearerClient.Credential
import BearerClient.Wire

/-!
# Programs

What the client does, as a value: a program asks its surroundings one question after another and
goes on with the answers until it has a result.  It can read the clock, read and replace the stored
credential, take and give back the lock that guards exchanges, send a request and wait.  The same
program is run alone, against a backend, and side by side with others.
-/

namespace BearerClient

inductive Query where
  | now
  | credential
  | replace (credential : Credential)
  | lock
  | unlock
  | send (request : Wire.Request)
  | wait (time : Duration)

abbrev Query.Answer : Query → Type
  | .now => Instant
  | .credential => Credential
  | .send _ => Except TransportFault Wire.Response
  | .replace _ | .lock | .unlock | .wait _ => Unit

inductive Program (α : Type) where
  | done (result : α)
  /-- A counter left its range, and the program breaks off without a result. -/
  | abort
  | ask (query : Query) (next : query.Answer → Program α)

namespace Program

/-- Goes on with the result of a program. -/
def bind : Program α → (α → Program β) → Program β
  | done a, f => f a
  | abort, _ => abort
  | ask query next, f => ask query fun answer => (next answer).bind f

instance : Monad Program where
  pure := done
  bind := bind

theorem bind_done (program : Program α) : program.bind done = program := by
  induction program with
  | done _ => rfl
  | abort => rfl
  | ask query next ih => simp only [bind, ih]

theorem bind_assoc (program : Program α) (f : α → Program β) (g : β → Program γ) :
    (program.bind f).bind g = program.bind fun a => (f a).bind g := by
  induction program with
  | done _ => rfl
  | abort => rfl
  | ask query next ih => simp only [bind, ih]

instance : LawfulMonad Program := .mk' _ bind_done (fun _ _ => rfl) bind_assoc

/-- One question. -/
def query (query : Query) : Program query.Answer := ask query done

/-- The program, given up after a number of questions; it makes no use of the answer to the
last one. -/
def cutOff : (questions : Nat) → Program α → Program (Option α)
  | 0, _ => done none
  | _ + 1, done a => done (some a)
  | _ + 1, abort => abort
  | questions + 1, ask query next => ask query fun answer => (next answer).cutOff questions

/-- Runs a program while it holds the lock. -/
def locked (program : Program α) : Program α := do
  query .lock
  let result ← program
  query .unlock
  return result

end Program

/-- A program that may end with a failure. -/
abbrev Call := ExceptT Failure Program

namespace Call

/-- One question. -/
def ask (query : Query) : Call query.Answer := ExceptT.lift (Program.query query)

def abort : Call α := ExceptT.mk .abort

/-- Sends a request; a failure of the transport is a failure of the call. -/
def send (request : Wire.Request) : Call Wire.Response := do
  match ← ask (.send request) with
  | .ok response => return response
  | .error source => throw (.ofTransport source)

def locked (call : Call α) : Call α := ExceptT.mk (Program.locked call.run)

end Call

/-! ## Running a program alone -/

/-- What answers the questions that leave the client: a clock and a transport. -/
structure Backend (σ : Type) where
  now : σ → Instant × σ
  send : σ → Wire.Request → Except TransportFault Wire.Response × σ
  wait : σ → Duration → σ

/-- A backend in some state, the stored credential and all requests sent so far. -/
structure World (σ : Type) where
  outside : σ
  credential : Credential := .blank
  sent : List Wire.Request := []

namespace World

/-- Answers one question. -/
def answer (backend : Backend σ) (world : World σ) : (query : Query) → query.Answer × World σ
  | .now =>
    let (now, outside) := backend.now world.outside
    (now, { world with outside })
  | .credential => (world.credential, world)
  | .replace credential => ((), { world with credential })
  | .lock => ((), world)
  | .unlock => ((), world)
  | .send request =>
    let (response, outside) := backend.send world.outside request
    (response, { world with outside, sent := world.sent ++ [request] })
  | .wait time => ((), { world with outside := backend.wait world.outside time })

end World

/-- Runs a program alone.  There is no result where it breaks off. -/
def Program.run (backend : Backend σ) : Program α → World σ → Option α × World σ
  | done a, world => (some a, world)
  | abort, world => (none, world)
  | ask query next, world =>
    let (answer, world) := world.answer backend query
    (next answer).run backend world

/-- What follows a program starts in the world that the program leaves, if it has a result. -/
theorem Program.run_bind (backend : Backend σ) (program : Program α) (f : α → Program β)
    (world : World σ) :
    (program.bind f).run backend world =
      match program.run backend world with
      | (some a, world) => (f a).run backend world
      | (none, world) => (none, world) := by
  induction program generalizing world with
  | done _ => rfl
  | abort => rfl
  | ask query next ih => exact ih ..

end BearerClient
