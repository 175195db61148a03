import AccessTrail.Proofs.Handler.History
import AccessTrail.Proofs.Transport.Layers

namespace AccessTrail

variable {σ ℓ μ : Type}

inductive Work.Asks : Work → Operation → Prop
  | write (bs) : Asks (.command (.write bs)) (.write bs)
  | writeAll (bs part) : Asks (.command (.writeAll bs)) (.write part)
  | flush : Asks (.command .flush) .flush
  | close : Asks (.command .close) .close
  | sendHead (status) : Asks (.command (.sendHead status)) (.sendHead status)
  | edit (change) : Asks (.command (.edit change)) (.edit change)
  | handOver : Asks (.command .handOver) .handOver
  | failEdit (status f) : Asks (.command (.fail status f)) (.edit Exchange.plainText)
  | failHead (status f) : Asks (.command (.fail status f)) (.sendHead status)
  | failWrite (status f part) : Asks (.command (.fail status f)) (.write part)
  | failFlush (status f) : Asks (.command (.fail status f)) .flush
  | replyWrite (parts part) : Asks (.reply parts) (.write part)
  | replyFlush (parts) : Asks (.reply parts) .flush

def Work.isReply : Work → Bool
  | command (.fail ..) | reply _ => true
  | command _ | yielded => false

variable [Transport σ]

theorem Transport.sendAll_cons_keeps {P : σ → Prop} (h : ∀ bs s, P s → P (write bs s).2) {b : UInt8}
    {bs : Bytes} {s : σ} (hs : P (write (b :: bs) s).2) : P (sendAll (b :: bs) s).2 := by
  rw [sendAll]
  split
  next hw => rwa [hw] at hs
  next hw =>
    rw [hw] at hs
    split <;> exact hs
  next hw => rwa [hw] at hs
  next n s' hw =>
    rw [hw] at hs
    split
    · exact sendAll_keeps h _ s' hs
    · exact hs

namespace Work

theorem pollReply_keeps {P : σ → Prop} (hwrite : ∀ bs s, P s → P (Transport.write bs s).2)
    (hflush : ∀ s, P s → P (Transport.flush s).2) (parts : List Bytes) {x : Exchange σ ℓ}
    (hx : P x.observer.inner) : P (pollReply parts x).2.observer.inner := by
  induction parts generalizing x with
  | nil =>
    have hf := hflush _ hx
    rw [pollReply]
    split
    next answer s hs =>
      rw [hs] at hf
      cases answer <;> exact hf
    next hs => rwa [hs] at hf
  | cons part parts ih =>
    have hp := Transport.sendAll_keeps hwrite part _ hx
    rw [pollReply]
    split
    next s hs =>
      rw [hs] at hp
      exact ih hp
    next hs => rwa [hs] at hp
    next hs => rwa [hs] at hp
    next hs => rwa [hs] at hp

theorem pollReply_cons_keeps {P : σ → Prop} (hwrite : ∀ bs s, P s → P (Transport.write bs s).2)
    (hflush : ∀ s, P s → P (Transport.flush s).2) {b : UInt8} {bs : Bytes} {parts : List Bytes}
    {x : Exchange σ ℓ} (hx : P (Transport.write (b :: bs) x.observer.inner).2) :
    P (pollReply ((b :: bs) :: parts) x).2.observer.inner := by
  have hp := Transport.sendAll_cons_keeps hwrite hx
  rw [pollReply]
  split
  next s hs =>
    rw [hs] at hp
    exact pollReply_keeps hwrite hflush parts hp
  next hs => rwa [hs] at hp
  next hs => rwa [hs] at hp
  next hs => rwa [hs] at hp

theorem tally_pollReply (parts : List Bytes) (x : Exchange σ ℓ) :
    (pollReply parts x).2.observer.tally = x.observer.tally := by
  induction parts generalizing x with
  | nil =>
    rw [pollReply]
    split
    next answer s _ => cases answer <;> rfl
    next => rfl
  | cons part parts ih =>
    rw [pollReply]
    split
    next s _ => exact ih (x.setInner s)
    all_goals rfl

variable [Log ℓ]

theorem pollCommand_keeps {P : Observer σ → Prop} {c : Command} (hc : (command c).isReply = false)
    (h : ∀ op o, (command c).Asks op → P o → P (op.on o).2)
    (hlogged : ∀ o, P o → P { o with logged := true }) {x : Exchange σ ℓ} (hx : P x.observer) :
    P (pollCommand c x).2.observer := by
  have hop : ∀ op : Operation, (command c).Asks op → c = op.command →
      P (pollCommand c x).2.observer := by
    rintro op ha rfl
    rw [(pollCommand_operation op x).2]
    exact h op _ ha hx
  cases c with
  | write bs => exact hop _ (.write bs) rfl
  | flush => exact hop _ .flush rfl
  | close => exact hop _ .close rfl
  | sendHead status => exact hop _ (.sendHead status) rfl
  | edit change => exact hop _ (.edit change) rfl
  | handOver => exact hop _ .handOver rfl
  | writeAll bs =>
    have hs := Transport.sendAll_keeps (fun part o => h _ o (.writeAll bs part)) bs _ hx
    unfold pollCommand
    simp only
    split <;> next ho => rwa [ho] at hs
  | record e =>
    rw [pollCommand_record_snd]
    rcases Exchange.observer_record e x with ho | ho
    · rwa [ho]
    · rw [ho]
      exact hlogged _ hx
  | fail => cases hc
  | offers | sendRaw | headers | tally | note | yield | stall => exact hx

theorem fail_keeps {P : σ → Prop} (status : Http.Status) (f : Failure)
    (h : ∀ op s, (command (.fail status f)).Asks op → P s → P (op.on s).2) {x : Exchange σ ℓ}
    (hx : P x.observer.inner) : P (fail status f x).2.observer.inner := by
  rw [← Exchange.inner_record (Exchange.failing status f) x] at hx
  unfold fail
  split
  next y hy => rwa [hy] at hx
  next y hy =>
    rw [hy] at hx
    simp only
    split
    · have hedit := h _ _ (.failEdit status f) hx
      exact pollReply_keeps (fun part s => h _ s (.failWrite status f part))
        (fun s => h _ s (.failFlush status f)) _ (h _ _ (.failHead status f) hedit)
    · exact hx

theorem poll_keeps {P : σ → Prop} {w : Work} (h : ∀ op s, w.Asks op → P s → P (op.on s).2)
    {x : Exchange σ ℓ} (hx : P x.observer.inner) : P (w.poll x).2.observer.inner := by
  cases w with
  | reply parts =>
    exact pollReply_keeps (fun part s => h _ s (.replyWrite parts part))
      (fun s => h _ s (.replyFlush parts)) parts hx
  | yielded => exact hx
  | command c =>
    cases hc : (command c).isReply with
    | true =>
      cases c with
      | fail status f => exact fail_keeps status f h hx
      | _ => cases hc
    | false =>
      have hinner : ∀ (op : Operation) (o : Observer σ), (op.on o).2.inner = (op.on o.inner).2 :=
        fun op o => (congrArg Prod.snd (Observer.passes_inner.on op o)).symm
      refine pollCommand_keeps (P := fun o => P o.inner) hc ?_ (fun _ => id) hx
      intro op o ha ho
      rw [hinner]
      exact h op _ ha ho

theorem tally_fail (status : Http.Status) (f : Failure) (x : Exchange σ ℓ) :
    (fail status f x).2.observer.tally =
      if (x.record (Exchange.failing status f)).1 = none then
        { x.observer.tally with status := some status }
      else x.observer.tally := by
  have hx := Exchange.tally_record (Exchange.failing status f) x
  unfold fail
  split
  next message y hy =>
    rw [hy] at hx ⊢
    exact hx
  next y hy =>
    rw [hy] at hx ⊢
    rw [← hx]
    simp only
    split
    · exact tally_pollReply _ _
    · rfl

theorem counts_reply {w : Work} (hw : w.isReply) (x : Exchange σ ℓ) :
    (w.poll x).2.observer.tally.produced = x.observer.tally.produced ∧
      (w.poll x).2.observer.tally.sent = x.observer.tally.sent := by
  cases w with
  | yielded => cases hw
  | reply parts =>
    rw [poll, tally_pollReply]
    exact ⟨rfl, rfl⟩
  | command c =>
    cases c with
    | fail status f =>
      have htally : ((command (.fail status f)).poll x).2.observer.tally = _ :=
        tally_fail status f x
      rw [htally]
      split <;> exact ⟨rfl, rfl⟩
    | _ => cases hw

end Work

def Operation.accepted (op : Operation) (a : Answer) : Nat :=
  match op, a with
  | write _, .wrote (.done (.ok n)) => n
  | _, _ => 0

namespace History

variable {start : σ}

def accepted (h : History start) : Nat :=
  ((Operation.run h.past start).1.map fun a => a.1.accepted a.2).sum

theorem accepted_add (op : Operation) (h : History start) :
    (h.add op).accepted = h.accepted + op.accepted (op.on h.now).1 := by
  rw [accepted, add, Operation.run_append, List.map_append, List.sum_append]
  rfl

end History

variable [Log ℓ]

namespace Work

def operations (w : Work) (x : Exchange σ ℓ) : List Operation :=
  (w.poll x.remember).2.observer.inner.past

theorem poll_operations (w : Work) (x : Exchange σ ℓ) :
    (w.poll x).2.observer.inner = (Operation.run (w.operations x) x.observer.inner).2 := by
  have h := w.poll_map History.carries_now x.remember
  exact congrArg (·.2.observer.inner) h

def accepted (w : Work) (x : Exchange σ ℓ) : Nat := (w.poll x.remember).2.observer.inner.accepted

end Work

inductive Move (μ ℓ : Type)
  | poll : Work → Move μ ℓ
  | other : μ → Move μ ℓ
  | elsewhere : (ℓ → ℓ) → (Clock → Clock) → Move μ ℓ

def Move.Keeps (act : μ → σ → σ) (P : σ → Prop) : Move μ ℓ → Prop
  | poll w => ∀ op s, w.Asks op → P s → P (op.on s).2
  | other m => ∀ s, P s → P (act m s)
  | elsewhere .. => True

namespace Exchange

variable (act : μ → σ → σ)

def move (x : Exchange σ ℓ) : Move μ ℓ → Exchange σ ℓ
  | .poll w => (w.poll x).2
  | .other m => x.setInner (act m x.observer.inner)
  | .elsewhere log now => { x with log := log x.log, now := now x.now }

def moves (x : Exchange σ ℓ) (ms : List (Move μ ℓ)) : Exchange σ ℓ := ms.foldl (move act) x

theorem moves_append (x : Exchange σ ℓ) (ms ms' : List (Move μ ℓ)) :
    x.moves act (ms ++ ms') = (x.moves act ms).moves act ms' := List.foldl_append

theorem moves_preserve {Q : Exchange σ ℓ → Prop} {ms : List (Move μ ℓ)}
    (h : ∀ m ∈ ms, ∀ x, Q x → Q (x.move act m)) {x : Exchange σ ℓ} (hx : Q x) :
    Q (x.moves act ms) :=
  List.foldlRecOn ms (move act) hx fun y hy m hm => h m hm y hy

theorem moves_keeps {P : σ → Prop} {ms : List (Move μ ℓ)} (h : ∀ m ∈ ms, m.Keeps act P)
    {x : Exchange σ ℓ} (hx : P x.observer.inner) : P (x.moves act ms).observer.inner := by
  refine moves_preserve act (Q := fun x => P x.observer.inner) (fun m hm y hy => ?_) hx
  have hm := h m hm
  cases m with
  | poll w => exact Work.poll_keeps hm hy
  | other m => exact hm _ hy
  | elsewhere => exact hy

def accepted (p : Work → Bool) (x : Exchange σ ℓ) : List (Move μ ℓ) → Nat
  | [] => 0
  | .poll w :: ms => (if p w then w.accepted x else 0) + accepted p (x.move act (.poll w)) ms
  | m :: ms => accepted p (x.move act m) ms

end Exchange

end AccessTrail
