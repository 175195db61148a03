import AccessTrail.Proofs.Handler.Image

/-!
What a poll does to a transport, as a list of operations. A history stands for the transport that
its operations lead to, so a handler that is polled over a history leaves the list behind.
-/

namespace AccessTrail

variable {σ ℓ : Type}

structure History (start : σ) where
  past : List Operation := []

variable [Transport σ]

namespace History

variable {start : σ}

def now (h : History start) : σ := (Operation.run h.past start).2

def add (op : Operation) (h : History start) : History start := ⟨h.past ++ [op]⟩

theorem now_add (op : Operation) (h : History start) : (h.add op).now = (op.on h.now).2 :=
  Operation.run_concat h.past op start

instance : Transport (History start) where
  headers h := Transport.headers h.now
  editHeaders change h := h.add (.edit change)
  sendHead status h := (h.add (.sendHead status), (Transport.sendHead status h.now).2)
  write bs h := ((Transport.write bs h.now).1, h.add (.write bs))
  flush h := ((Transport.flush h.now).1, h.add .flush)
  close h := ((Transport.close h.now).1, h.add .close)
  onWire h := Transport.onWire h.now
  handOver h := (Transport.handOver h.now).map fun r => (r.1, h.add .handOver)
  release _ h := h

theorem carries_now : Transport.Carries (now : History start → σ) where
  headers _ := rfl
  editHeaders change h := (now_add (.edit change) h).symm
  sendHead status h := Prod.ext (now_add (.sendHead status) h).symm rfl
  write bs h := Prod.ext rfl (now_add (.write bs) h).symm
  flush h := Prod.ext rfl (now_add .flush h).symm
  close h := Prod.ext rfl (now_add .close h).symm
  handOver h := by
    have hnow := now_add .handOver h
    rw [Operation.on] at hnow
    change _ = ((Transport.handOver h.now).map _).map _
    cases hh : Transport.handOver h.now with
    | none => rfl
    | some r =>
      rw [hh] at hnow
      exact congrArg some (Prod.ext rfl hnow.symm)
  onWire _ := rfl

theorem on_cases (op : Operation) (h : History start) :
    (op.on h).2 = h.add op ∨ (op.on h).2 = h ∧ (op = .headers ∨ op = .handOver) := by
  cases op with
  | headers => exact .inr ⟨rfl, .inl rfl⟩
  | edit | sendHead | write | flush | close => exact .inl rfl
  | handOver =>
    have hover : Transport.handOver h =
        (Transport.handOver h.now).map fun r => (r.1, h.add .handOver) := rfl
    rw [Operation.on, hover]
    cases Transport.handOver h.now with
    | none => exact .inr ⟨rfl, .inr rfl⟩
    | some => exact .inl rfl

end History

variable [Log ℓ]

def Exchange.remember (x : Exchange σ ℓ) : Exchange (History x.observer.inner) ℓ :=
  x.map fun _ => {}

def Rest.operations (r : Rest) (x : Exchange σ ℓ) : List Operation :=
  (r.poll x.remember).2.observer.inner.past

theorem Rest.poll_operations (r : Rest) (x : Exchange σ ℓ) :
    (r.poll x).2.observer.inner = (Operation.run (r.operations x) x.observer.inner).2 := by
  have h := r.poll_map History.carries_now x.remember
  exact congrArg (·.2.observer.inner) h

end AccessTrail
