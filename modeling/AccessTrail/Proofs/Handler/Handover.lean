import AccessTrail.Log.Memory
import AccessTrail.Proofs.Handler.Nested
import AccessTrail.Proofs.Transport.Shared

namespace AccessTrail

variable {ℓ : Type}

namespace Streamed

/-- Whether a connection came with the request is remembered; the connection is there until it is
taken. -/
structure Holds (q : Http.Request) (taken : Bool) (s : Streamed) : Prop where
  upgradable : s.upgradable = q.upgrade.isSome
  handover : s.handover = if taken then none else q.upgrade

def handed (q : Http.Request) (taken : Bool) : Except Refusal Http.Handover :=
  match q.upgrade with
  | none => .error .notSupported
  | some c => if taken then .error .alreadyTaken else .ok c

theorem holds_forRequest (q : Http.Request) : (forRequest q).Holds q false := ⟨rfl, rfl⟩

namespace Holds

variable {q : Http.Request} {taken : Bool} {s s' : Streamed}

theorem of_eq (h : s.Holds q taken) (hupgradable : s'.upgradable = s.upgradable)
    (hhandover : s'.handover = s.handover) : s'.Holds q taken :=
  ⟨hupgradable.trans h.upgradable, hhandover.trans h.handover⟩

theorem commit (h : s.Holds q taken) (status : Http.Status) : (s.commit status).Holds q taken := by
  unfold Streamed.commit
  split <;> exact h.of_eq rfl rfl

theorem write (h : s.Holds q taken) (bs : Bytes) : (Transport.write bs s).2.Holds q taken := by
  have hcommit := h.commit .ok
  cases bs with
  | nil => exact hcommit
  | cons b bs =>
    rw [write_cons]
    split
    · exact hcommit
    split
    · exact hcommit
    · exact hcommit.of_eq rfl rfl

theorem on (h : s.Holds q taken) {op : Operation} (hop : op ≠ .handOver) :
    (op.on s).2.Holds q taken := by
  cases op with
  | headers | flush => exact h
  | edit | close => exact h.of_eq rfl rfl
  | sendHead status => exact h.commit status
  | write bs => exact h.write bs
  | handOver => exact absurd rfl hop

theorem transport_handOver (h : s.Holds q taken) :
    Transport.handOver s =
      q.upgrade.map fun c =>
        (if taken then .error .alreadyTaken else .ok c, { s with handover := none }) := by
  obtain ⟨hupgradable, hhandover⟩ := h
  rcases s with ⟨headers, head, queue, closed, released, reader, upgradable, handover⟩
  change upgradable = _ at hupgradable
  change handover = _ at hhandover
  subst hupgradable hhandover
  simp only [Transport.handOver]
  cases q.upgrade with
  | none => rfl
  | some c => cases taken <;> rfl

theorem handOver (h : s.Holds q taken) :
    (Operation.handOver.on s).1 = .handed (handed q taken) ∧
      (Operation.handOver.on s).2.Holds q true := by
  rw [Operation.on, h.transport_handOver, handed]
  cases hq : q.upgrade with
  | none =>
    have hnothing : s.handover = none := by rw [h.handover, hq, ite_self]
    exact ⟨rfl, h.upgradable, hnothing⟩
  | some c => exact ⟨rfl, h.upgradable, rfl⟩

theorem act (h : s.Holds q taken) (d : Demand) : (d.act s).Holds q taken := by
  cases d with
  | head =>
    simp only [Demand.act, takeHead]
    split
    · split <;> exact h.of_eq rfl rfl
    · split
      · exact h.of_eq rfl rfl
      · exact h
    · exact h
  | body =>
    simp only [Demand.act, takeBody]
    split
    · exact h.of_eq rfl rfl
    · exact h.of_eq rfl rfl
    all_goals exact h
  | drop =>
    simp only [Demand.act]
    split <;> exact h.of_eq rfl rfl

end Holds

end Streamed

def Work.asksOver : Work → Bool
  | command .handOver => true
  | _ => false

def Move.asksOver {μ : Type} : Move μ ℓ → Bool
  | poll w => w.asksOver
  | other _ | elsewhere .. => false

theorem Work.ne_handOver_of_asks {w : Work} (hw : w.asksOver = false) {op : Operation}
    (ha : w.Asks op) :
    op ≠ .handOver := by
  rintro rfl
  cases ha
  cases hw

theorem Layers.base_behind {σ : Type} (f : σ → σ) (k : Nat) (l : Layers σ k) :
    base k (behind f k l) = f (base k l) := by
  induction k with
  | zero => rfl
  | succ k ih => exact ih (Observer.inner l)

namespace Exchange

variable [Log ℓ] {k : Nat} {q : Http.Request} {taken : Bool} {x : Exchange (Layers Streamed k) ℓ}

def Holds (q : Http.Request) (taken : Bool) (x : Exchange (Layers Streamed k) ℓ) : Prop :=
  (Layers.base k x.observer.inner).Holds q taken

theorem Holds.handOver (h : x.Holds q taken) :
    (Work.pollCommand .handOver x).1 =
        Operation.handOver.polled (.handed (Streamed.handed q taken)) ∧
      (Work.pollCommand .handOver x).2.Holds q true := by
  obtain ⟨hanswer, hbase⟩ := Work.pollCommand_layers .handOver x
  obtain ⟨hhanded, hgone⟩ := Streamed.Holds.handOver h
  rw [hhanded] at hanswer
  refine ⟨hanswer, ?_⟩
  unfold Holds
  exact hbase ▸ hgone

theorem Holds.offers (h : x.Holds q taken) :
    (Work.pollCommand .offers x).1 = .finished (.offered q.upgrade.isSome) := by
  have hpass := (Layers.passes_base (σ := Streamed) (k + 1)).handOver x.observer
  have hbase : Transport.handOver (Layers.base (k + 1) x.observer) = _ :=
    Streamed.Holds.transport_handOver h
  have hoffers := congrArg Option.isSome (hpass.symm.trans hbase)
  rw [Option.isSome_map, Option.isSome_map] at hoffers
  exact congrArg (fun b => Polled.finished (.offered b)) hoffers

theorem Holds.move (h : x.Holds q taken) (m : Move Streamed.Demand ℓ) :
    (x.move (fun d => Layers.behind d.act k) m).Holds q (taken || m.asksOver) := by
  cases m with
  | elsewhere log now => rwa [Move.asksOver, Bool.or_false]
  | other d =>
    rw [Move.asksOver, Bool.or_false, Exchange.Holds, Exchange.move, setInner, Layers.base_behind]
    exact Streamed.Holds.act h d
  | poll w =>
    rw [Move.asksOver]
    cases hw : w.asksOver with
    | true =>
      rw [Bool.or_true]
      unfold Work.asksOver at hw
      split at hw
      · exact h.handOver.2
      · cases hw
    | false =>
      rw [Bool.or_false]
      refine Work.poll_keeps (P := fun l => Streamed.Holds q taken (Layers.base k l))
        (fun op l ha hl => ?_) h
      rw [Layers.base_on]
      exact Streamed.Holds.on hl (Work.ne_handOver_of_asks hw ha)

theorem Holds.moves (h : x.Holds q taken) (ms : List (Move Streamed.Demand ℓ)) :
    (x.moves (fun d => Layers.behind d.act k) ms).Holds q (taken || ms.any Move.asksOver) := by
  induction ms generalizing x taken with
  | nil => rwa [List.any_nil, Bool.or_false]
  | cons m ms ih =>
    rw [List.any_cons, ← Bool.or_assoc]
    exact ih (h.move m)

/-- Behind any number of observers, whatever is done through the outermost one and whatever the
client does meanwhile: without a connection none is offered, and whoever asks for it is told so.
With one, it is always offered, the first who asks has it, and the others are told that it was
taken; nothing else takes it or brings it back. -/
theorem handed_over_once (hx : Layers.base k x.observer.inner = Streamed.forRequest q)
    (ms : List (Move Streamed.Demand ℓ)) :
    let y := x.moves (fun d => Layers.behind d.act k) ms
    let asked := ms.any Move.asksOver
    (Work.pollCommand .offers y).1 = .finished (.offered q.upgrade.isSome) ∧
      (Layers.base k y.observer.inner).handover = (if asked then none else q.upgrade) ∧
      (Work.pollCommand .handOver y).1 = .finished
        (match q.upgrade with
        | none => .refused .notSupported
        | some c => if asked then .refused .alreadyTaken else .handedOver c) := by
  intro y asked
  have hstart : x.Holds q false := by
    rw [Holds, hx]
    exact Streamed.holds_forRequest q
  have hy : y.Holds q asked := hstart.moves ms
  refine ⟨hy.offers, hy.handover, ?_⟩
  rw [hy.handOver.1, Streamed.handed]
  cases q.upgrade with
  | none => rfl
  | some c => cases asked <;> rfl

theorem handed_over_once_of_echo :
    let q : Http.Request := { upgrade := some (.opened [0x68]) }
    let l : Layers Streamed 1 := ({ inner := Streamed.forRequest q } : Observer Streamed)
    let start : Exchange (Layers Streamed 1) MemoryLog := enter {} l {} ⟨"T", {}⟩
    let asks : Move Streamed.Demand MemoryLog := .poll (.command .handOver)
    let ms : List (Move Streamed.Demand MemoryLog) :=
      [.poll (.command (.write [0x61])), .other .head,
        .poll (.command (.fail .notFound ⟨"gone", []⟩)),
        .poll (.command .close)]
    let y := start.moves (fun d => Layers.behind d.act 1) ms
    let z := start.moves (fun d => Layers.behind d.act 1) (ms ++ [asks])
    Layers.base 1 start.observer.inner = Streamed.forRequest q ∧
      (Work.pollCommand .handOver y).1 = .finished (.handedOver (.opened [0x68])) ∧
      (Work.pollCommand .handOver z).1 = .finished (.refused .alreadyTaken) ∧
      (Work.pollCommand .offers z).1 = .finished (.offered true) := by
  intro q l start asks ms y z
  have hstart : Layers.base 1 start.observer.inner = Streamed.forRequest q := rfl
  obtain ⟨-, -, hy⟩ := handed_over_once hstart ms
  obtain ⟨hoffers, -, hz⟩ := handed_over_once hstart (ms ++ [asks])
  exact ⟨hstart, hy, hz, hoffers⟩

end Exchange

end AccessTrail
