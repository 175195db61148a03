import AccessTrail.Proofs.Handler.Run
import AccessTrail.Proofs.Transport.Operation

namespace AccessTrail

def Layers (σ : Type) : Nat → Type
  | 0 => σ
  | k + 1 => Observer (Layers σ k)

namespace Layers

variable {σ : Type}

def base : (k : Nat) → Layers σ k → σ
  | 0, s => s
  | k + 1, o => base k (Observer.inner o)

instance transport [base : Transport σ] : (k : Nat) → Transport (Layers σ k)
  | 0 => base
  | k + 1 => @Observer.instTransport (Layers σ k) (transport k)

end Layers

variable {σ : Type} [Transport σ]

theorem Observer.passes_inner : Transport.Passes (Observer.inner : Observer σ → σ) where
  headers _ := rfl
  editHeaders _ _ := rfl
  sendHead _ _ := rfl
  write bs o := by
    change Transport.write bs o.inner = (Observer.write bs o).map id Observer.inner
    unfold Observer.write
    split <;> next h => rw [h]; rfl
  flush _ := rfl
  close _ := rfl
  handOver o := by
    change Transport.handOver o.inner = ((Transport.handOver o.inner).map _).map _
    cases Transport.handOver o.inner <;> rfl

theorem Layers.passes_base (k : Nat) : Transport.Passes (Layers.base k : Layers σ k → σ) := by
  induction k with
  | zero => exact .refl (σ := σ)
  | succ k ih => exact ih.comp (Observer.passes_inner (σ := Layers σ k))

namespace Operation

def command : Operation → Command
  | headers => .headers
  | edit change => .edit change
  | sendHead status => .sendHead status
  | write bs => .write bs
  | flush => .flush
  | close => .close
  | handOver => .handOver

def polled (op : Operation) : Answer → Polled
  | .headers h => .finished (.headers h)
  | .edited | .sent _ => .finished .done
  | .wrote (.done (.ok n)) => .finished (.wrote n)
  | .wrote (.done (.error f)) => .finished (.failed f)
  | .wrote (.waiting again) => .finished (.notReady again)
  | .settled (.done answer) => .finished (Work.settled answer)
  | .settled (.waiting again) => .waiting again (.command op.command)
  | .handed (.error r) => .finished (.refused r)
  | .handed (.ok h) => .finished (.handedOver h)

end Operation

variable {ℓ : Type} [Log ℓ]

theorem Work.pollCommand_operation (op : Operation) (x : Exchange σ ℓ) :
    (pollCommand op.command x).1 = op.polled (op.on x.observer).1 ∧
      (pollCommand op.command x).2.observer = (op.on x.observer).2 := by
  cases op with
  | headers => exact ⟨rfl, rfl⟩
  | edit change => exact ⟨rfl, rfl⟩
  | sendHead status => exact ⟨rfl, rfl⟩
  | write bs =>
    simp only [Operation.command, pollCommand, Operation.on]
    split <;> next h => rw [h]; exact ⟨rfl, rfl⟩
  | flush =>
    simp only [Operation.command, pollCommand, attempt, Operation.on]
    split <;> next h => rw [h]; exact ⟨rfl, rfl⟩
  | close =>
    simp only [Operation.command, pollCommand, attempt, Operation.on]
    split <;> next h => rw [h]; exact ⟨rfl, rfl⟩
  | handOver =>
    simp only [Operation.command, pollCommand, Operation.on]
    split <;> next h => rw [h]; exact ⟨rfl, rfl⟩

theorem Work.pollCommand_layers {k : Nat} (op : Operation) (x : Exchange (Layers σ k) ℓ) :
    let alone := op.on (Layers.base k x.observer.inner)
    (pollCommand op.command x).1 = op.polled alone.1 ∧
      Layers.base k (pollCommand op.command x).2.observer.inner = alone.2 := by
  intro alone
  have halone : alone = (op.on x.observer).map id (fun o => Layers.base k o.inner) :=
    (Layers.passes_base (σ := σ) (k + 1)).on op x.observer
  obtain ⟨hpolled, hobserver⟩ := pollCommand_operation op x
  rw [hpolled, hobserver, halone]
  exact ⟨rfl, rfl⟩

inductive Deed
  | operate : Operation → Deed
  | record : Entry → Deed

def Deed.operation? : Deed → Option Operation
  | operate op => some op
  | record _ => none

namespace Exchange

def perform : List Deed → Exchange σ ℓ → List Polled × Exchange σ ℓ
  | [], x => ([], x)
  | .operate op :: ds, x =>
    let (ps, y) := perform ds (Work.pollCommand op.command x).2
    ((Work.pollCommand op.command x).1 :: ps, y)
  | .record e :: ds, x => perform ds (Work.pollCommand (.record e) x).2

/-- Through any number of observers, with records made in between, every operation is answered as
the transport itself would answer it, which is left as if it had been asked alone. -/
theorem perform_layers {k : Nat} (ds : List Deed) (x : Exchange (Layers σ k) ℓ) :
    let alone := Operation.run (ds.filterMap Deed.operation?) (Layers.base k x.observer.inner)
    (x.perform ds).1 = alone.1.map (fun a => a.1.polled a.2) ∧
      Layers.base k (x.perform ds).2.observer.inner = alone.2 := by
  induction ds generalizing x with
  | nil => exact ⟨rfl, rfl⟩
  | cons d ds ih =>
    cases d with
    | operate op =>
      obtain ⟨hpolled, hbase⟩ := Work.pollCommand_layers op x
      obtain ⟨hrest, hlast⟩ := ih (Work.pollCommand op.command x).2
      rw [hbase] at hrest hlast
      exact ⟨congrArg₂ List.cons hpolled hrest, hlast⟩
    | record e =>
      have hinner : (Work.pollCommand (.record e) x).2.observer.inner = x.observer.inner := by
        rw [Work.pollCommand_record_snd, inner_record]
      rw [← hinner]
      exact ih (Work.pollCommand (.record e) x).2

end Exchange

end AccessTrail
