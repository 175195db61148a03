import AccessTrail.Notice

namespace AccessTrail

inductive Received
  | signal
  | missed : (count : Nat) → Received
  | closed
  deriving DecidableEq

structure Waiter where
  next : Nat
  resolved : Bool := false
  deriving DecidableEq

inductive WaitAnswer
  | pending
  | resolved
  | done
  deriving DecidableEq

structure StopSignal where
  held : Bool := true
  listeners : Nat := 0
  catching : Bool := false
  sent : Nat := 0
  waiters : List Waiter := []
  deriving DecidableEq

namespace StopSignal

def senders (s : StopSignal) : Nat := s.held.toNat + s.listeners

def subscribe (s : StopSignal) : Nat × StopSignal :=
  (s.waiters.length, { s with waiters := s.waiters ++ [{ next := s.sent }] })

def trigger (s : StopSignal) : StopSignal := { s with sent := s.sent + 1 }

def drop (s : StopSignal) : StopSignal := { s with held := false }

def triggerOnInterrupt (s : StopSignal) : StopSignal :=
  { s with listeners := s.listeners + 1, catching := true }

def interrupt (s : StopSignal) : StopSignal × List Notice :=
  ({ s with sent := s.sent + s.listeners, listeners := 0 },
    List.replicate s.listeners .stopReceived)

def receive (s : StopSignal) (next : Nat) : Option (Received × Nat) :=
  if next + 1 < s.sent then some (.missed (s.sent - 1 - next), s.sent - 1)
  else if next < s.sent then some (.signal, s.sent)
  else if s.senders = 0 then some (.closed, next)
  else none

def pollWaiter (s : StopSignal) (w : Waiter) : WaitAnswer × Waiter :=
  if w.resolved then (.done, w)
  else
    match s.receive w.next with
    | some (_, next) => (.resolved, ⟨next, true⟩)
    | none => (.pending, w)

def poll (s : StopSignal) : List WaitAnswer × StopSignal :=
  let polled := s.waiters.map s.pollWaiter
  (polled.map (·.1), { s with waiters := polled.map (·.2) })

end StopSignal

end AccessTrail
