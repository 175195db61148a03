import AccessTrail.Proofs.Handler.Move

namespace AccessTrail

variable {σ ℓ μ : Type}

structure Outcome where
  operation : Operation
  answer : Answer
  wire : Option UInt64

def Tally.after (t : Tally) (o : Outcome) : Tally :=
  match o.operation, o.answer with
  | .write _, .wrote (.done (.ok n)) => t.begin.count n o.wire
  | .write _, _ => t.begin
  | .sendHead status, _ => { t with status := some status }
  | _, _ => t

variable [Transport σ]

namespace Operation

def outcome (op : Operation) (s : σ) : Outcome := ⟨op, (op.on s).1, Transport.onWire (op.on s).2⟩

def outcomes : List Operation → σ → List Outcome
  | [], _ => []
  | op :: ops, s => op.outcome s :: outcomes ops (op.on s).2

theorem mem_outcomes {ops : List Operation} {s : σ} {o : Outcome} (h : o ∈ outcomes ops s) :
    o.operation ∈ ops := by
  induction ops generalizing s with
  | nil => exact absurd h List.not_mem_nil
  | cons op ops ih =>
    rcases List.mem_cons.1 h with rfl | h
    · exact List.mem_cons_self
    · exact List.mem_cons_of_mem _ (ih h)

theorem outcomes_append (ops ops' : List Operation) (s : σ) :
    outcomes (ops ++ ops') s = outcomes ops s ++ outcomes ops' (run ops s).2 := by
  induction ops generalizing s with
  | nil => rfl
  | cons op ops ih => exact congrArg (op.outcome s :: ·) (ih _)

end Operation

theorem Observer.tally_on (op : Operation) (o : Observer σ) :
    (op.on o).2.tally = o.tally.after (op.outcome o.inner) := by
  cases op with
  | headers | edit | sendHead | flush | close => rfl
  | handOver =>
    simp only [Operation.on, Transport.handOver]
    cases Transport.handOver o.inner <;> rfl
  | write bs =>
    change (write bs o).2.tally = _
    simp only [write, Operation.outcome, Operation.on, Tally.after]
    rcases Transport.write bs o.inner with ⟨(_ | _) | _, s⟩ <;> rfl

theorem Observer.inner_on (op : Operation) (o : Observer σ) :
    (op.on o).2.inner = (op.on o.inner).2 :=
  (congrArg Prod.snd (passes_inner.on op o)).symm

namespace History

variable {start : σ}

def outcomes (h : History start) : List Outcome := Operation.outcomes h.past start

theorem outcomes_add (op : Operation) (h : History start) :
    (h.add op).outcomes = h.outcomes ++ [op.outcome h.now] :=
  Operation.outcomes_append h.past [op] start

theorem outcome_now (op : Operation) (h : History start) : op.outcome h = op.outcome h.now := by
  have hon := carries_now.on op h
  have hwire := carries_now.onWire (op.on h).2
  rw [Operation.outcome, Operation.outcome, hon, ← hwire]
  rfl

theorem outcomes_on (op : Operation) (h : History start) (t : Tally) :
    (op.on h).2.outcomes.foldl Tally.after t =
      (h.outcomes.foldl Tally.after t).after (op.outcome h) := by
  rcases on_cases op h with hon | ⟨hon, rfl | rfl⟩ <;> rw [hon]
  · rw [outcomes_add, List.foldl_append, outcome_now]
    rfl
  · rfl
  · rfl

theorem accepted_on (op : Operation) (h : History start) :
    (op.on h).2.accepted = h.accepted + op.accepted (op.on h).1 := by
  rcases on_cases op h with hon | ⟨hon, rfl | rfl⟩ <;> rw [hon]
  · rw [accepted_add, carries_now.on]
    rfl
  · rfl
  · rfl

end History

def Observer.Notes {start : σ} (t : Tally) (o : Observer (History start)) : Prop :=
  o.tally = o.inner.outcomes.foldl Tally.after t

theorem Observer.notes_on {start : σ} {t : Tally} (op : Operation) {o : Observer (History start)}
    (ho : o.Notes t) : (op.on o).2.Notes t := by
  rw [Notes, tally_on, inner_on, History.outcomes_on, ← ho]

theorem Tally.sent_after (t : Tally) {o : Outcome} (hwire : o.wire = none) :
    (t.after o).sent = t.sent + UInt64.ofNat (o.operation.accepted o.answer) := by
  obtain ⟨op, answer, wire⟩ := o
  cases hwire
  cases op with
  | write bs => rcases answer with _ | _ | _ | ((_ | n) | again) | _ | _
      <;> simp [after, begin, count, Operation.accepted]
  | headers | edit | sendHead | flush | close | handOver => exact (UInt64.add_zero _).symm

def Observer.Counts {start : σ} (before : UInt64) (o : Observer (History start)) : Prop :=
  o.tally.sent = before + UInt64.ofNat o.inner.accepted

theorem Observer.counts_on {start : σ} (hwire : ∀ s : σ, Transport.onWire s = none)
    {before : UInt64} (op : Operation) {o : Observer (History start)} (ho : o.Counts before) :
    (op.on o).2.Counts before := by
  have hquiet : (op.outcome o.inner).wire = none := hwire _
  rw [Counts, tally_on, inner_on, Tally.sent_after _ hquiet, History.accepted_on, UInt64.ofNat_add,
    ← UInt64.add_assoc, ← ho]
  rfl

variable [Log ℓ]

namespace Work

def outcomes (w : Work) (x : Exchange σ ℓ) : List Outcome :=
  (w.poll x.remember).2.observer.inner.outcomes

theorem operations_command (op : Operation) (x : Exchange σ ℓ) :
    (command op.command).operations x = (op.on ({} : History x.observer.inner)).2.past := by
  rw [operations, poll, (pollCommand_operation op x.remember).2, Observer.inner_on]
  rfl

theorem tally_poll {w : Work} (hw : w.isReply = false) (x : Exchange σ ℓ) :
    (w.poll x).2.observer.tally = (w.outcomes x).foldl Tally.after x.observer.tally := by
  have hmap := congrArg (·.2.observer.tally) (w.poll_map History.carries_now x.remember)
  have hstart : x.remember.observer.Notes x.observer.tally := rfl
  refine Eq.trans hmap ?_
  cases w with
  | reply => cases hw
  | yielded => exact hstart
  | command c =>
    exact pollCommand_keeps hw (fun op o _ => Observer.notes_on op) (fun _ => id) hstart

theorem sent_poll (hwire : ∀ s : σ, Transport.onWire s = none) {w : Work} (hw : w.isReply = false)
    (x : Exchange σ ℓ) :
    (w.poll x).2.observer.tally.sent = x.observer.tally.sent + UInt64.ofNat (w.accepted x) := by
  have hmap := congrArg (·.2.observer.tally.sent) (w.poll_map History.carries_now x.remember)
  have hstart : x.remember.observer.Counts x.observer.tally.sent := (UInt64.add_zero _).symm
  refine Eq.trans hmap ?_
  cases w with
  | reply => cases hw
  | yielded => exact hstart
  | command c =>
    exact pollCommand_keeps hw (fun op o _ => Observer.counts_on hwire op) (fun _ => id) hstart

def asked (w : Work) (x : Exchange σ ℓ) : List Outcome := if w.isReply then [] else w.outcomes x

end Work

theorem Exchange.sent_moves (act : μ → σ → σ) (hwire : ∀ s : σ, Transport.onWire s = none)
    (x : Exchange σ ℓ) (ms : List (Move μ ℓ)) :
    (x.moves act ms).observer.tally.sent =
      x.observer.tally.sent + UInt64.ofNat (x.accepted act (!·.isReply) ms) := by
  induction ms generalizing x with
  | nil => exact (UInt64.add_zero _).symm
  | cons m ms ih =>
    rw [moves, List.foldl_cons]
    refine (ih _).trans ?_
    cases m with
    | other => rfl
    | elsewhere => rfl
    | poll w =>
      rw [accepted, UInt64.ofNat_add, ← UInt64.add_assoc]
      congr 1
      cases hw : w.isReply with
      | true => exact (Work.counts_reply hw x).2.trans (UInt64.add_zero _).symm
      | false => exact Work.sent_poll hwire hw x

def Exchange.asked (act : μ → σ → σ) (x : Exchange σ ℓ) : List (Move μ ℓ) → List Outcome
  | [] => []
  | .poll w :: ms => w.asked x ++ asked act (x.move act (.poll w)) ms
  | m :: ms => asked act (x.move act m) ms

end AccessTrail
