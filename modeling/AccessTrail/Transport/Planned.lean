import AccessTrail.Transport.Basic

namespace AccessTrail

inductive WriteAnswer
  | take : (limit : Option Nat) → WriteAnswer
  | claim : Nat → WriteAnswer
  | fail : Fault → WriteAnswer
  | wait : (again : Bool) → WriteAnswer
  deriving DecidableEq

structure WritePlan where
  wire : Option UInt64 := none
  answer : WriteAnswer := .take none
  deriving DecidableEq

structure Planned where
  writes : List WritePlan := []
  flushes : List (Attempt (Except Fault Unit)) := []
  closes : List (Attempt (Except Fault Unit)) := []
  wire : Option UInt64 := none
  halving : Bool := false
  handovers : Option Nat := none
  heads : List Http.Status := []
  headers : Http.Headers := {}
  body : Bytes := []

namespace Planned

def take (bs : Bytes) (p : Planned) : WriteAnswer → Attempt (Except Fault Nat) × Planned
  | .take limit =>
    let taken := bs.take (limit.getD bs.length)
    (.done (.ok taken.length), { p with body := p.body ++ taken })
  | .claim n => (.done (.ok n), p)
  | .fail f => (.done (.error f), p)
  | .wait again => (.waiting again, p)

def next : List (Attempt (Except Fault Unit)) → Attempt (Except Fault Unit)
  | [] => .done (.ok ())
  | a :: _ => a

instance : Transport Planned where
  headers := Planned.headers
  editHeaders edit p := { p with headers := edit p.headers }
  sendHead status p := ({ p with heads := p.heads ++ [status] }, [])
  write bs p :=
    match p.writes with
    | [] => p.take bs (.take none)
    | w :: rest =>
      { p with writes := rest, wire := w.wire <|> p.wire }.take bs w.answer
  flush p := (next p.flushes, { p with flushes := p.flushes.tail })
  close p := (next p.closes, { p with closes := p.closes.tail })
  onWire p := if p.halving then some (UInt64.ofNat (p.body.length / 2)) else p.wire
  handOver p :=
    match p.handovers with
    | none => none
    | some 0 => some (.error .alreadyTaken, p)
    | some (n + 1) => some (.ok (.broken "no upgrade available"), { p with handovers := some n })
  release _ p := p

end Planned

end AccessTrail
