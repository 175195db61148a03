import AccessTrail.Proofs.Handler.History
import AccessTrail.Proofs.Transport.Streamed

/-!
A stream that the writer has not for itself. Before each of its operations the client may do what it
likes, so that a poll of the handler and the client take turns operation by operation.
-/

namespace AccessTrail

namespace Streamed

inductive Demand
  | head
  | body
  | drop
  deriving DecidableEq

namespace Demand

def act : Demand → Streamed → Streamed
  | head, s => s.takeHead.2
  | body, s => s.takeBody.2
  | drop, s =>
    match s.reader with
    | .awaiting | .reading => s.dropReader
    | .bodiless | .gone => { s with reader := .gone }

def happening : Demand → Streamed → Happening
  | head, s => .head s.takeHead.1
  | body, s => .body s.takeBody.1
  | drop, _ => .dropped

def leaves : Demand → Streamed → Bool
  | head, _ | body, _ => false
  | drop, s => s.reader = .awaiting || s.reader = .reading

theorem head_act (d : Demand) (s : Streamed) : (d.act s).head = s.head := by
  cases d with
  | drop =>
    rw [act]
    split <;> rfl
  | head =>
    rw [act, takeHead]
    split
    · split <;> rfl
    · split <;> rfl
    · rfl
  | body =>
    rw [act, takeBody]
    split <;> rfl

theorem headers_act (d : Demand) (s : Streamed) : (d.act s).headers = s.headers := by
  cases d with
  | drop =>
    rw [act]
    split <;> rfl
  | head =>
    rw [act, takeHead]
    split
    · split <;> rfl
    · split <;> rfl
    · rfl
  | body =>
    rw [act, takeBody]
    split <;> rfl

end Demand

end Streamed

open Streamed (Demand Happening)

structure Shared where
  stream : Streamed
  plan : List (List Demand) := []
  trace : List Happening := []
  left : Bool := false

namespace Shared

def demand (t : Shared) (d : Demand) : Shared :=
  { t with
    stream := d.act t.stream
    trace := t.trace ++ [d.happening t.stream]
    left := t.left || d.leaves t.stream }

def meet (t : Shared) : Shared :=
  match t.plan with
  | [] => t
  | ds :: plan => ds.foldl demand { t with plan }

def operate (op : Operation) (t : Shared) : Shared :=
  let t := t.meet
  { t with stream := (op.on t.stream).2, trace := t.trace ++ [.operated op (op.on t.stream).1] }

instance : Transport Shared where
  headers t := Transport.headers t.stream
  editHeaders change t := t.operate (.edit change)
  sendHead status t := (t.operate (.sendHead status), (Transport.sendHead status t.meet.stream).2)
  write bs t := ((Transport.write bs t.meet.stream).1, t.operate (.write bs))
  flush t := ((Transport.flush t.meet.stream).1, t.operate .flush)
  close t := ((Transport.close t.meet.stream).1, t.operate .close)
  onWire _ := none
  handOver t := (Transport.handOver t.meet.stream).map fun r => (r.1, t.operate .handOver)
  release crashed t := { t with stream := Transport.release crashed t.stream }

theorem on_cases (op : Operation) (t : Shared) : (op.on t).2 = t ∨ (op.on t).2 = t.operate op := by
  cases op with
  | headers => exact .inl rfl
  | edit | sendHead | write | flush | close => exact .inr rfl
  | handOver =>
    have hover : Transport.handOver t =
        (Transport.handOver t.meet.stream).map fun r => (r.1, t.operate .handOver) := rfl
    rw [Operation.on, hover]
    cases Transport.handOver t.meet.stream with
    | none => exact .inl rfl
    | some => exact .inr rfl

theorem on_keeps {P : Shared → Prop} {op : Operation} {t : Shared} (ht : P t)
    (hplan : ∀ t plan, P t → P { t with plan }) (hdemand : ∀ t d, P t → P (t.demand d))
    (hop : ∀ t, P t →
      P { t with
        stream := (op.on t.stream).2
        trace := t.trace ++ [.operated op (op.on t.stream).1] }) :
    P (op.on t).2 := by
  have hmeet : P t.meet := by
    unfold meet
    split
    · exact ht
    next ds plan _ =>
      exact List.foldlRecOn ds demand (hplan t plan ht) fun t ht d _ => hdemand t d ht
  rcases on_cases op t with h | h <;> rw [h]
  · exact ht
  · exact hop _ hmeet

/-- The shared stream after some operations with a client that keeps still. -/
def along {start : Streamed} (trace : List Happening) (h : History start) : Shared where
  stream := h.now
  trace := trace ++ (Streamed.run (h.past.map .operate) start).1

theorem operate_along {start : Streamed} (trace : List Happening) (op : Operation)
    (h : History start) :
    (along trace h).operate op = along trace (h.add op) := by
  have hnow := History.now_add op h
  have hpast : (h.add op).past.map .operate = h.past.map .operate ++ [Streamed.Step.operate op] :=
    List.map_append
  rw [along, along, hpast, Streamed.run_append, Streamed.run_operations, ← List.append_assoc, hnow]
  rfl

theorem carries_along {start : Streamed} (trace : List Happening) :
    Transport.Carries (along trace : History start → Shared) where
  headers _ := rfl
  editHeaders change h := operate_along trace (.edit change) h
  sendHead status h := Prod.ext (operate_along trace (.sendHead status) h) rfl
  write bs h := Prod.ext rfl (operate_along trace (.write bs) h)
  flush h := Prod.ext rfl (operate_along trace .flush h)
  close h := Prod.ext rfl (operate_along trace .close h)
  handOver h := by
    change (Transport.handOver h.now).map _ = ((Transport.handOver h.now).map _).map _
    rw [Option.map_map, operate_along]
    rfl
  onWire _ := rfl

end Shared

end AccessTrail
