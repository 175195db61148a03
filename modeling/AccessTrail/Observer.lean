import AccessTrail.Ratio
import AccessTrail.Transport.Basic

/-!
Observers. An observer stands in front of a transport, passes every operation on, and notes the
status and how many bytes went by. Being a transport itself, it may stand in front of another
observer.
-/

namespace AccessTrail

/-- What an observer has noted. Bytes produced were taken from the handler; bytes sent are on the
wire. -/
structure Tally where
  status : Option Http.Status := none
  produced : UInt64 := 0
  sent : UInt64 := 0
  deriving DecidableEq

namespace Tally

def code (t : Tally) : UInt16 := UInt16.ofNat ((t.status.map (·.code)).getD 0)

def ratio (t : Tally) : String := Ratio.text t.produced.toNat t.sent.toNat

def begin (t : Tally) : Tally := { t with status := some (t.status.getD .ok) }

/-- A transport that reports its wire is believed; otherwise what was taken was sent. -/
def count (n : Nat) (wire : Option UInt64) (t : Tally) : Tally :=
  { t with
    produced := t.produced + UInt64.ofNat n
    sent := wire.getD (t.sent + UInt64.ofNat n) }

end Tally

structure Observer (σ : Type) where
  inner : σ
  visit : Http.Visit := {}
  tally : Tally := {}
  logged : Bool := false

namespace Observer

variable {σ : Type} [Transport σ]

def write (bs : Bytes) (o : Observer σ) : Attempt (Except Fault Nat) × Observer σ :=
  match Transport.write bs o.inner with
  | (.done (.ok n), s) =>
    (.done (.ok n), { o with inner := s, tally := o.tally.begin.count n (Transport.onWire s) })
  | (answer, s) => (answer, { o with inner := s, tally := o.tally.begin })

def sendHead (status : Http.Status) (o : Observer σ) : Observer σ × List Notice :=
  let (s, notices) := Transport.sendHead status o.inner
  ({ o with inner := s, tally.status := some status }, notices)

instance : Transport (Observer σ) where
  headers o := Transport.headers o.inner
  editHeaders edit o := { o with inner := Transport.editHeaders edit o.inner }
  sendHead := sendHead
  write := write
  flush o :=
    let (answer, s) := Transport.flush o.inner
    (answer, { o with inner := s })
  close o :=
    let (answer, s) := Transport.close o.inner
    (answer, { o with inner := s })
  onWire o := some o.tally.sent
  handOver o := (Transport.handOver o.inner).map fun (h, s) => (h, { o with inner := s })
  release crashed o := { o with inner := Transport.release crashed o.inner }

end Observer

end AccessTrail
