import AccessTrail.Fault
import AccessTrail.Notice
import AccessTrail.Http.Request
import AccessTrail.Http.Response

namespace AccessTrail

inductive Attempt (α : Type)
  | done : α → Attempt α
  | waiting : (again : Bool) → Attempt α
  deriving DecidableEq

class Transport (σ : Type) where
  headers : σ → Http.Headers
  editHeaders : (Http.Headers → Http.Headers) → σ → σ
  sendHead : Http.Status → σ → σ × List Notice
  write : Bytes → σ → Attempt (Except Fault Nat) × σ
  flush : σ → Attempt (Except Fault Unit) × σ
  close : σ → Attempt (Except Fault Unit) × σ
  /-- Bytes put on the wire, where these are not the bytes taken. -/
  onWire : σ → Option UInt64
  handOver : σ → Option (Except Refusal Http.Handover × σ)
  release : (crashed : Bool) → σ → σ

namespace Transport

variable {σ : Type} [Transport σ]

inductive Progress
  | finished : Except Fault Unit → Progress
  | waiting : (again : Bool) → (rest : Bytes) → Progress
  | overrun : Progress

/-- An interruption is no fault: the write is to be tried again at once. A write that takes nothing
would be repeated for ever, so it is one. -/
def sendAll (rest : Bytes) (s : σ) : Progress × σ :=
  match rest with
  | [] => (.finished (.ok ()), s)
  | b :: bs =>
    match write (b :: bs) s with
    | (.waiting again, s) => (.waiting again (b :: bs), s)
    | (.done (.error f), s) =>
      if f.kind = .interrupted then (.waiting true (b :: bs), s) else (.finished (.error f), s)
    | (.done (.ok 0), s) => (.finished (.error ⟨.writeZero, .ofKind⟩), s)
    | (.done (.ok (n + 1)), s) =>
      if n ≤ bs.length then sendAll (bs.drop n) s else (.overrun, s)
termination_by rest.length
decreasing_by
  rw [List.length_drop, List.length_cons]
  exact Nat.lt_succ_of_le (Nat.sub_le _ _)

end Transport

end AccessTrail
