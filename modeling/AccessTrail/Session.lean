import AccessTrail.Serving
import AccessTrail.Transport.Streamed

/-!
Sessions: a request served by a task of its own, while a client waits for the head and reads the
body. A client that goes away aborts the task, unless the connection was handed over.
-/

namespace AccessTrail

inductive Task
  | unspawned
  | queued
  | running : Rest → Task
  | ended : (crash : Option String) → Task

structure Session (ℓ : Type) where
  program : Program
  exchange : Exchange Streamed ℓ
  task : Task := .unspawned
  aborted : Bool := false

namespace Session

variable {ℓ : Type}

def start (handler : Handler) (r : Http.Request) (log : ℓ) (now : Clock) : Session ℓ where
  program := handler r
  exchange := Exchange.enter r (Streamed.forRequest r) log now

def stream (s : Session ℓ) : Streamed := s.exchange.observer.inner

def setStream (t : Streamed) (s : Session ℓ) : Session ℓ :=
  { s with exchange := s.exchange.setInner t }

def spawn (s : Session ℓ) : Session ℓ :=
  match s.task, s.stream.reader with
  | .unspawned, .awaiting => { s with task := .queued }
  | _, _ => s

def bareError : Http.Head := ⟨.internalServerError, {}⟩

def noteCrash (s : Session ℓ) : Session ℓ :=
  match s.task with
  | .ended (some message) => { s with exchange := s.exchange.note (.handlerCrashed message) }
  | _ => s

def takeHead (s : Session ℓ) : Streamed.HeadAnswer × Session ℓ :=
  let s := s.spawn
  match s.stream.takeHead with
  | (.lost, t) => (.head bareError, (setStream { t with reader := .bodiless } s).noteCrash)
  | (answer, t) => (answer, setStream t s)

def takeBody (s : Session ℓ) : Streamed.BodyAnswer × Session ℓ :=
  let (answer, t) := s.stream.takeBody
  (answer, setStream t s)

def drop (s : Session ℓ) : Session ℓ :=
  match s.stream.reader with
  | .awaiting | .reading => { setStream s.stream.dropReader s with aborted := true }
  | .bodiless | .gone => setStream { s.stream with reader := .gone } s

/-- Whether the handler ever ran. A task that did has left its record once it has ended. -/
def hasRun (s : Session ℓ) : Bool :=
  match s.task with
  | .unspawned | .queued => false
  | .running _ => true
  | .ended _ => s.exchange.observer.logged

variable [Log ℓ]

def close (e : End) (x : Exchange Streamed ℓ) (s : Session ℓ) : Session ℓ :=
  match e.leave x with
  | (.crashed message, x) => { s with exchange := x, task := .ended (some message) }
  | (_, x) => { s with exchange := x, task := .ended none }

def settle (stop : Stop × Exchange Streamed ℓ) (s : Session ℓ) : Bool × Session ℓ :=
  match stop with
  | (.returned, x) => (false, close .returned x s)
  | (.crashed message, x) => (false, close (.crashed message) x s)
  | (.waiting again rest, x) => (again, { s with exchange := x, task := .running rest })

/-- A task that is aborted before it was ever polled leaves no record. -/
def cancel (s : Session ℓ) : Session ℓ :=
  match s.task with
  | .queued =>
    { setStream (Transport.release false s.stream) s with task := .ended none }
  | .running _ => close .cancelled s.exchange s
  | .unspawned | .ended _ => s

def pollTask (s : Session ℓ) : Bool × Session ℓ :=
  if s.aborted then (false, s.cancel)
  else
    match s.task with
    | .queued => settle ((Rest.ready s.program).poll s.exchange) s
    | .running rest => settle (rest.poll s.exchange) s
    | .unspawned | .ended _ => (false, s)

def tick : Nat → Session ℓ → Session ℓ
  | 0, s => s
  | n + 1, s =>
    match s.pollTask with
    | (true, s) => tick n s
    | (false, s) => s

end Session

end AccessTrail
