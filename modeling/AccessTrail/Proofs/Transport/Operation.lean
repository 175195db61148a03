import AccessTrail.Transport.Basic
import Mathlib.Tactic

namespace AccessTrail

inductive Operation
  | headers
  | edit : (Http.Headers → Http.Headers) → Operation
  | sendHead : Http.Status → Operation
  | write : Bytes → Operation
  | flush
  | close
  | handOver

inductive Answer
  | headers : Http.Headers → Answer
  | edited
  | sent : List Notice → Answer
  | wrote : Attempt (Except Fault Nat) → Answer
  | settled : Attempt (Except Fault Unit) → Answer
  | handed : Except Refusal Http.Handover → Answer
  deriving DecidableEq

namespace Operation

variable {σ τ : Type} [Transport σ] [Transport τ]

def on (op : Operation) (s : σ) : Answer × σ :=
  match op with
  | headers => (.headers (Transport.headers s), s)
  | edit change => (.edited, Transport.editHeaders change s)
  | sendHead status => (.sent (Transport.sendHead status s).2, (Transport.sendHead status s).1)
  | write bs => (.wrote (Transport.write bs s).1, (Transport.write bs s).2)
  | flush => (.settled (Transport.flush s).1, (Transport.flush s).2)
  | close => (.settled (Transport.close s).1, (Transport.close s).2)
  | handOver =>
    match Transport.handOver s with
    | none => (.handed (.error .notSupported), s)
    | some (h, s) => (.handed h, s)

def run : List Operation → σ → List (Operation × Answer) × σ
  | [], s => ([], s)
  | op :: ops, s =>
    let (as, s') := run ops (op.on s).2
    ((op, (op.on s).1) :: as, s')

theorem run_append (ops ops' : List Operation) (s : σ) :
    run (ops ++ ops') s =
      ((run ops s).1 ++ (run ops' (run ops s).2).1, (run ops' (run ops s).2).2) := by
  induction ops generalizing s with
  | nil => rfl
  | cons op ops ih => simp [run, ih]

theorem run_keeps {P : σ → Prop} (h : ∀ (op : Operation) s, P s → P (op.on s).2)
    (ops : List Operation) {s : σ} (hs : P s) : P (run ops s).2 := by
  induction ops generalizing s with
  | nil => exact hs
  | cons op ops ih => exact ih (h op s hs)

theorem run_concat (ops : List Operation) (op : Operation) (s : σ) :
    (run (ops ++ [op]) s).2 = (op.on (run ops s).2).2 := by
  induction ops generalizing s with
  | nil => rfl
  | cons op' ops ih => exact ih _

end Operation

structure Transport.Passes {τ σ : Type} [Transport τ] [Transport σ] (f : τ → σ) : Prop where
  headers : ∀ t, headers (f t) = headers t
  editHeaders : ∀ change t, editHeaders change (f t) = f (editHeaders change t)
  sendHead : ∀ status t, sendHead status (f t) = (sendHead status t).map f id
  write : ∀ bs t, write bs (f t) = (write bs t).map id f
  flush : ∀ t, flush (f t) = (flush t).map id f
  close : ∀ t, close (f t) = (close t).map id f
  handOver : ∀ t, handOver (f t) = (handOver t).map (.map id f)

namespace Transport.Passes

variable {σ τ υ : Type} [Transport σ] [Transport τ] [Transport υ] {f : τ → σ} {g : υ → τ}

theorem refl : Passes (id : σ → σ) where
  headers _ := rfl
  editHeaders _ _ := rfl
  sendHead _ _ := rfl
  write _ _ := rfl
  flush _ := rfl
  close _ := rfl
  handOver s := by rw [Prod.map_id, Option.map_id]; rfl

theorem comp (hf : Passes f) (hg : Passes g) : Passes (f ∘ g) where
  headers u := (hf.headers (g u)).trans (hg.headers u)
  editHeaders change u := by
    rw [Function.comp_apply, hf.editHeaders, hg.editHeaders, Function.comp_apply]
  sendHead status u := by rw [Function.comp_apply, hf.sendHead, hg.sendHead, Prod.map_map]; rfl
  write bs u := by rw [Function.comp_apply, hf.write, hg.write, Prod.map_map]; rfl
  flush u := by rw [Function.comp_apply, hf.flush, hg.flush, Prod.map_map]; rfl
  close u := by rw [Function.comp_apply, hf.close, hg.close, Prod.map_map]; rfl
  handOver u := by
    rw [Function.comp_apply, hf.handOver, hg.handOver, Option.map_map, Prod.map_comp_map]
    rfl

theorem on (hf : Passes f) (op : Operation) (t : τ) : op.on (f t) = (op.on t).map id f := by
  cases op with
  | headers => simp [Operation.on, hf.headers]
  | edit change => simp [Operation.on, hf.editHeaders]
  | sendHead status => simp [Operation.on, hf.sendHead]
  | write bs => simp [Operation.on, hf.write]
  | flush => simp [Operation.on, hf.flush]
  | close => simp [Operation.on, hf.close]
  | handOver =>
    rw [Operation.on, Operation.on, hf.handOver]
    cases Transport.handOver t with
    | none => rfl
    | some h => rfl

end Transport.Passes

end AccessTrail
