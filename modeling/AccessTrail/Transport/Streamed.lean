import AccessTrail.Transport.Basic

/-!
A transport between a handler and a client that reads while the handler writes. The head goes ahead
of the body; the body's parts wait in a bounded queue, which holds the handler back when the client
is slow.
-/

namespace AccessTrail

inductive Part
  | chunk : Bytes → Part
  | broken : Part
  deriving DecidableEq

/-- What the client is doing. A connection that was handed over leaves the client no body to read.
-/
inductive Reader
  | awaiting
  | reading
  | bodiless
  | gone
  deriving DecidableEq

structure Streamed where
  headers : Http.Headers := {}
  head : Option Http.Head := none
  queue : List Part := []
  closed : Bool := false
  released : Bool := false
  reader : Reader := .awaiting
  upgradable : Bool := false
  handover : Option Http.Handover := none
  deriving DecidableEq

namespace Streamed

def forRequest (r : Http.Request) : Streamed where
  upgradable := r.upgrade.isSome
  handover := r.upgrade

def capacity : Nat := 8

/-- One part fits beyond the capacity, since the writer only learns of the queue's length
afterwards. -/
def isFull (s : Streamed) : Bool := capacity < s.queue.length

def commit (status : Http.Status) (s : Streamed) : Streamed :=
  match s.head with
  | none => { s with head := some ⟨status, s.headers⟩, headers := {} }
  | some _ => s

def push (p : Part) (s : Streamed) : Streamed := { s with queue := s.queue ++ [p] }

def hangUp (s : Streamed) : Streamed := { s with closed := true, queue := [] }

def bodyClosed : Fault := .custom .brokenPipe "response body closed"

def enqueue (bs : Bytes) (s : Streamed) : Attempt (Except Fault Nat) × Streamed :=
  match bs with
  | [] => (.done (.ok 0), s)
  | _ :: _ =>
    if s.closed then (.done (.error bodyClosed), s)
    else if s.isFull then (.waiting false, s)
    else (.done (.ok bs.length), s.push (.chunk bs))

/-- A crash after the head breaks the body, so that a short body does not pass for a whole one. -/
def finish (crashed : Bool) (s : Streamed) : Streamed :=
  match s.head, crashed with
  | none, false => s.commit .ok
  | some _, true => if s.closed || s.isFull then s else s.push .broken
  | none, true | some _, false => s

instance : Transport Streamed where
  headers := Streamed.headers
  editHeaders edit s := { s with headers := edit s.headers }
  sendHead status s := (s.commit status, if s.head.isSome then [.headAgain status] else [])
  write bs s := (s.commit .ok).enqueue bs
  flush s := (.done (.ok ()), s)
  close s := (.done (.ok ()), { s with closed := true })
  onWire _ := none
  handOver s :=
    if s.upgradable then
      match s.handover with
      | some h => some (.ok h, { s with handover := none })
      | none => some (.error .alreadyTaken, s)
    else none
  release crashed s := { s.finish crashed with released := true }

inductive HeadAnswer
  | waiting
  | head : Http.Head → HeadAnswer
  | lost
  | unexpected
  deriving DecidableEq

def takeHead (s : Streamed) : HeadAnswer × Streamed :=
  match s.reader, s.head with
  | .awaiting, some h =>
    if h.status = .switchingProtocols then (.head h, { s.hangUp with reader := .bodiless })
    else (.head h, { s with reader := .reading })
  | .awaiting, none =>
    if s.released then (.lost, { s.hangUp with reader := .gone }) else (.waiting, s)
  | _, _ => (.unexpected, s)

inductive BodyAnswer
  | waiting
  | chunk : Bytes → BodyAnswer
  | broken : (reason : String) → BodyAnswer
  | finished
  | nothing
  deriving DecidableEq

def crashReason : String := "request handler panicked"

def takeBody (s : Streamed) : BodyAnswer × Streamed :=
  match s.reader, s.queue with
  | .reading, .chunk bs :: rest => (.chunk bs, { s with queue := rest })
  | .reading, .broken :: rest => (.broken crashReason, { s with queue := rest })
  | .reading, [] => (if s.closed || s.released then .finished else .waiting, s)
  | .bodiless, _ => (.finished, s)
  | .awaiting, _ | .gone, _ => (.nothing, s)

def dropReader (s : Streamed) : Streamed := { s.hangUp with reader := .gone }

end Streamed

end AccessTrail
