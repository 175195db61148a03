import AccessTrail.Proofs.Transport.Operation

namespace AccessTrail

variable {σ : Type} [Transport σ]

namespace Operation

def Granted : Operation → Answer → Prop
  | write bs, a => a = .wrote (.done (.ok bs.length))
  | flush, a | close, a => a = .settled (.done (.ok ()))
  | handOver, a => ∃ h, a = .handed (.ok h)
  | headers, _ | edit _, _ | sendHead _, _ => True

def written? : Operation → Option Bytes
  | write bs => some bs
  | headers | edit _ | sendHead _ | flush | close | handOver => none

def written (ops : List Operation) : Bytes := (ops.filterMap written?).flatten

@[simp] theorem written_append (ops ops' : List Operation) :
    written (ops ++ ops') = written ops ++ written ops' := by
  rw [written, List.filterMap_append, List.flatten_append, written, written]

end Operation

namespace Transport

def Grants : List Operation → σ → Prop
  | [], _ => True
  | op :: ops, s => op.Granted (op.on s).1 ∧ Grants ops (op.on s).2

theorem write_of_granted {bs : Bytes} {s : σ}
    (h : (Operation.write bs).Granted ((Operation.write bs).on s).1) :
    write bs s = (.done (.ok bs.length), (write bs s).2) := Prod.ext (Answer.wrote.inj h) rfl

theorem flush_of_granted {s : σ} (h : Operation.flush.Granted (Operation.flush.on s).1) :
    flush s = (.done (.ok ()), (flush s).2) := Prod.ext (Answer.settled.inj h) rfl

theorem handOver_of_granted {s : σ} (h : Operation.handOver.Granted (Operation.handOver.on s).1) :
    ∃ c, handOver s = some (.ok c, (Operation.handOver.on s).2) := by
  obtain ⟨c, hc⟩ := h
  rw [Operation.on] at hc ⊢
  split at hc
  · cases hc
  next r s' hs =>
    cases hc
    exact ⟨c, hs⟩

theorem sendAll_of_granted {bs : Bytes} {s : σ} (hbs : bs ≠ [])
    (h : (Operation.write bs).Granted ((Operation.write bs).on s).1) :
    sendAll bs s = (.finished (.ok ()), (write bs s).2) := by
  cases bs with
  | nil => exact absurd rfl hbs
  | cons b bs =>
    rw [sendAll, write_of_granted h]
    simp [sendAll]

end Transport

end AccessTrail
