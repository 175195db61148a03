import AccessTrail.Transport.Buffered
import AccessTrail.Proofs.Handler.Failure

namespace AccessTrail

variable {σ ℓ μ : Type}

namespace Layers

def tallies : (k : Nat) → Layers σ k → List Tally
  | 0, _ => []
  | k + 1, o => Observer.tally o :: tallies k (Observer.inner o)

def behind (f : σ → σ) : (k : Nat) → Layers σ k → Layers σ k
  | 0, s => f s
  | k + 1, o => { o with inner := behind f k (Observer.inner o) }

def Agree (t : Tally) (k : Nat) (l : Layers σ k) : Prop := ∀ t' ∈ tallies k l, t' = t

theorem agree_succ {t : Tally} {k : Nat} {o : Layers σ (k + 1)} :
    Agree t (k + 1) o ↔ Observer.tally o = t ∧ Agree t k (Observer.inner o) := List.forall_mem_cons

theorem tallies_behind (f : σ → σ) (k : Nat) (l : Layers σ k) :
    tallies k (behind f k l) = tallies k l := by
  induction k with
  | zero => rfl
  | succ k ih => exact congrArg (_ :: ·) (ih (Observer.inner l))

theorem Agree.behind {t : Tally} {k : Nat} {l : Layers σ k} (h : Agree t k l) (f : σ → σ) :
    Agree t k (behind f k l) := by
  rwa [Agree, tallies_behind]

def Reply (status : Http.Status) (produced : UInt64) (k m : Nat) (l : Layers σ k) : Prop :=
  ∃ sent, Agree ⟨some status, produced + UInt64.ofNat m, sent⟩ k l

theorem Reply.behind {status : Http.Status} {produced : UInt64} {k m : Nat} {l : Layers σ k}
    (h : Reply status produced k m l) (f : σ → σ) : Reply status produced k m (behind f k l) := by
  obtain ⟨sent, hagree⟩ := h
  exact ⟨sent, hagree.behind f⟩

end Layers

theorem Tally.after_of_sent (t : Tally) (o : Outcome) :
    t.after { o with wire := some (t.after o).sent } = t.after o := by
  obtain ⟨op, answer, wire⟩ := o
  cases op with
  | write bs => rcases answer with _ | _ | _ | ((_ | n) | again) | _ | _ <;> rfl
  | _ => rfl

variable [Transport σ]

namespace Layers

variable {k : Nat} {t : Tally} {l : Layers σ k}

theorem answer_on (op : Operation) (l : Layers σ k) : (op.on l).1 = (op.on (base k l)).1 :=
  (congrArg Prod.fst ((passes_base k).on op l)).symm

theorem base_on (op : Operation) (l : Layers σ k) : base k (op.on l).2 = (op.on (base k l)).2 :=
  (congrArg Prod.snd ((passes_base k).on op l)).symm

theorem Agree.on (h : Agree t k l) (op : Operation) :
    Agree (t.after (op.outcome (base k l))) k (op.on l).2 := by
  induction k with
  | zero => exact nofun
  | succ k ih =>
    obtain ⟨htally, hinner⟩ := agree_succ.1 h
    have hrest := ih hinner
    have hon : Observer.inner (op.on l).2 = (op.on (Observer.inner l)).2 := Observer.inner_on op l
    refine agree_succ.2 ⟨?_, by rwa [hon]⟩
    have hnoted : Observer.tally (op.on l).2 = _ := Observer.tally_on op l
    rw [hnoted, htally]
    cases k with
    | zero => rfl
    | succ k =>
      -- the wire, as the next observer reports it
      have hsent := (agree_succ.1 hrest).1
      have hreport : op.outcome (Observer.inner l) =
          { op.outcome (base (k + 2) l) with
            wire := some (t.after (op.outcome (base (k + 2) l))).sent } := by
        have hanswer := answer_on op (Observer.inner l)
        have hwire := congrArg (some <| Tally.sent ·) hsent
        exact congrArg₂ (Outcome.mk op) hanswer hwire
      rw [hreport, Tally.after_of_sent]

end Layers

namespace Transport

/-- In the states `P`, each write takes some of the bytes it is offered. -/
structure Accepting (P : σ → Prop) : Prop where
  edits : ∀ change s, P s → P (editHeaders change s)
  sends : ∀ status s, P s → P (sendHead status s).1
  writes : ∀ bs s, P s → P (write bs s).2
  accepts : ∀ bs s, P s → bs ≠ [] → ∃ n, 0 < n ∧ n ≤ bs.length ∧ (write bs s).1 = .done (.ok n)

def Counts (Q : Nat → σ → Prop) : Prop :=
  ∀ bs m s, Q m s → bs ≠ [] →
    ∃ n, 0 < n ∧ n ≤ bs.length ∧ (write bs s).1 = .done (.ok n) ∧ Q (m + n) (write bs s).2

theorem sendAll_of_part {b : UInt8} {bs : Bytes} {n : Nat} {s : σ}
    (hanswer : (write (b :: bs) s).1 = .done (.ok (n + 1))) (hle : n ≤ bs.length) :
    sendAll (b :: bs) s = sendAll (bs.drop n) (write (b :: bs) s).2 := by
  have hwrite : write (b :: bs) s = (.done (.ok (n + 1)), (write (b :: bs) s).2) :=
    Prod.ext hanswer rfl
  rw [sendAll, hwrite]
  exact if_pos hle

theorem Counts.sendAll {Q : Nat → σ → Prop} (hQ : Counts Q) (bs : Bytes) {m : Nat} {s : σ}
    (hs : Q m s) :
    (sendAll bs s).1 = .finished (.ok ()) ∧ Q (m + bs.length) (sendAll bs s).2 := by
  induction hlength : bs.length using Nat.strongRecOn generalizing bs m s with
  | ind length ih =>
    cases bs with
    | nil =>
      subst hlength
      rw [Transport.sendAll]
      exact ⟨rfl, hs⟩
    | cons b bs =>
      rw [List.length_cons] at hlength
      obtain ⟨n, hpos, hle, hanswer, hnow⟩ := hQ (b :: bs) m s hs (List.cons_ne_nil b bs)
      obtain ⟨n, rfl⟩ := Nat.exists_eq_succ_of_ne_zero hpos.ne'
      have hle : n ≤ bs.length := Nat.le_of_succ_le_succ hle
      have hrest : (bs.drop n).length = bs.length - n := List.length_drop
      have hsent := ih _ (by omega) (bs.drop n) hnow hrest
      rw [sendAll_of_part hanswer hle]
      rwa [show m + n.succ + (bs.length - n) = m + length by omega] at hsent

end Transport

namespace Layers

variable {P : σ → Prop} {status : Http.Status} {produced : UInt64} {k m : Nat} {l : Layers σ k}

theorem Reply.write (h : Reply status produced k m l) {bs : Bytes} {n : Nat}
    (hanswer : (Transport.write bs l).1 = .done (.ok n)) :
    Reply status produced k (m + n) (Transport.write bs l).2 := by
  obtain ⟨sent, hagree⟩ := h
  let o := (Operation.write bs).outcome (base k l)
  have ho : o.answer = .wrote (.done (.ok n)) :=
    (answer_on (.write bs) l).symm.trans (congrArg Answer.wrote hanswer)
  have hafter : ∀ t : Tally, t.after o = t.begin.count n o.wire := by
    intro t
    unfold Tally.after
    rw [ho]
    rfl
  have hnow := hagree.on (.write bs)
  rw [hafter] at hnow
  refine ⟨o.wire.getD (sent + UInt64.ofNat n), ?_⟩
  rw [UInt64.ofNat_add, ← UInt64.add_assoc]
  exact hnow

theorem Agree.reply {t : Tally} (h : Agree t k l) (status : Http.Status) :
    Reply status t.produced k 0 (Transport.sendHead status
      (Transport.editHeaders Exchange.plainText l)).1 := by
  have hedited := h.on (.edit Exchange.plainText)
  have hproduced : t.produced + UInt64.ofNat 0 = t.produced := UInt64.add_zero _
  exact ⟨t.sent, by rw [hproduced]; exact hedited.on (.sendHead status)⟩

theorem counts_reply (ha : Transport.Accepting P) (status : Http.Status) (produced : UInt64)
    (k : Nat) :
    Transport.Counts fun m (l : Layers σ k) => P (base k l) ∧ Reply status produced k m l := by
  intro bs m l hl hbs
  obtain ⟨n, hpos, hle, hanswer⟩ := ha.accepts bs _ hl.1 hbs
  have htaken : (Transport.write bs l).1 = .done (.ok n) :=
    (Answer.wrote.inj (answer_on (.write bs) l)).trans hanswer
  have hbase : base k (Transport.write bs l).2 = _ := base_on (.write bs) l
  refine ⟨n, hpos, hle, htaken, ?_, hl.2.write htaken⟩
  rw [hbase]
  exact ha.writes bs _ hl.1

theorem accepting_replyHead (ha : Transport.Accepting P) (hl : P (base k l))
    (status : Http.Status) :
    P (base k (Transport.sendHead status (Transport.editHeaders Exchange.plainText l)).1) := by
  let edited := Transport.editHeaders Exchange.plainText l
  have hedited : base k edited = _ := base_on (.edit Exchange.plainText) l
  have hsent : base k (Transport.sendHead status edited).1 = _ := base_on (.sendHead status) edited
  rw [hsent, hedited]
  exact ha.sends status _ (ha.edits Exchange.plainText _ hl)

theorem Reply.flush (h : Reply status produced k m l) :
    Reply status produced k m (Transport.flush l).2 := by
  obtain ⟨sent, hagree⟩ := h
  exact ⟨sent, hagree.on .flush⟩

end Layers

namespace Work

theorem pollReply_nil (x : Exchange σ ℓ) :
    (pollReply [] x).2.observer.inner = (Transport.flush x.observer.inner).2 ∧
      ((pollReply [] x).1 = .finished .done ∨
        ∃ again, (pollReply [] x).1 = .waiting again (.reply [])) := by
  rw [pollReply]
  rcases Transport.flush x.observer.inner with ⟨(f | _) | again, s⟩
  · exact ⟨rfl, .inl rfl⟩
  · exact ⟨rfl, .inl rfl⟩
  · exact ⟨rfl, .inr ⟨again, rfl⟩⟩

theorem pollReply_of_sent {part : Bytes} {parts : List Bytes} {x : Exchange σ ℓ} {s : σ}
    (h : Transport.sendAll part x.observer.inner = (.finished (.ok ()), s)) :
    pollReply (part :: parts) x = pollReply parts (x.setInner s) := by
  rw [pollReply, h]

theorem pollReply_counts {Q : Nat → σ → Prop} (hQ : Transport.Counts Q) (parts : List Bytes)
    {m : Nat} {x : Exchange σ ℓ} (hx : Q m x.observer.inner) :
    ∃ s, Q (m + (parts.map List.length).sum) s ∧
      pollReply parts x = pollReply [] (x.setInner s) := by
  induction parts generalizing m x with
  | nil => exact ⟨x.observer.inner, hx, rfl⟩
  | cons part parts ih =>
    obtain ⟨hanswer, hpart⟩ := hQ.sendAll part hx
    let y := x.setInner (Transport.sendAll part x.observer.inner).2
    obtain ⟨s, hs, hrest⟩ := ih (x := y) hpart
    refine ⟨s, ?_, ?_⟩
    · rwa [List.map_cons, List.sum_cons, ← Nat.add_assoc]
    · have hsent : Transport.sendAll part x.observer.inner =
          (.finished (.ok ()), y.observer.inner) :=
        Prod.ext hanswer rfl
      exact (pollReply_of_sent hsent).trans hrest

end Work

namespace Exchange

variable [Log ℓ] {k : Nat}

theorem layers_of_replies {P : σ → Prop} (ha : Transport.Accepting P) {t : Tally}
    {x : Exchange (Layers σ k) ℓ} (hagree : Layers.Agree t k x.observer.inner)
    (hP : P (Layers.base k x.observer.inner)) {status : Http.Status} {f : Failure}
    (h : x.Replies status f) :
    let r := (Work.command (.fail status f)).poll x
    (r.1 = .finished .done ∨ ∃ again, r.1 = .waiting again (.reply [])) ∧
      Layers.Reply status t.produced k ((replyText f).length + 1) r.2.observer.inner := by
  intro r
  obtain ⟨y, hinner, hy⟩ := Work.fail_of_replies h
  have hhead : P (Layers.base k (y.replyHead status).observer.inner) ∧
      Layers.Reply status t.produced k 0 (y.replyHead status).observer.inner := by
    rw [← hinner] at hP hagree
    exact ⟨Layers.accepting_replyHead ha hP status, hagree.reply status⟩
  obtain ⟨s, hs, hflush⟩ :=
    Work.pollReply_counts (Layers.counts_reply ha status t.produced k) (replyBody f) hhead
  have hr : r = Work.pollReply [] _ := hy.trans hflush
  obtain ⟨hflushed, hanswer⟩ := Work.pollReply_nil ((y.replyHead status).setInner s)
  have htotal : 0 + ((replyBody f).map List.length).sum = (replyText f).length + 1 := Nat.zero_add _
  rw [htotal] at hs
  rw [hr, hflushed]
  exact ⟨hanswer, hs.2.flush⟩

variable (act : μ → σ → σ) {x : Exchange (Layers σ k) ℓ}

theorem agree_poll (hx : Layers.Agree x.observer.tally k x.observer.inner) {w : Work}
    (hw : w.isReply = false) :
    Layers.Agree (w.poll x).2.observer.tally k (w.poll x).2.observer.inner := by
  cases w with
  | reply => cases hw
  | yielded => exact hx
  | command c =>
    refine Work.pollCommand_keeps (P := fun o => Layers.Agree o.tally k o.inner) hw ?_
      (fun _ => id) hx
    intro op o _ ho
    have hall : Layers.Agree o.tally (k + 1) o := Layers.agree_succ.2 ⟨rfl, ho⟩
    obtain ⟨htally, hinner⟩ := Layers.agree_succ.1 (hall.on op)
    exact htally ▸ hinner

theorem agree_moves (hx : Layers.Agree x.observer.tally k x.observer.inner) {ms : List (Move μ ℓ)}
    (hms : ∀ w, .poll w ∈ ms → w.isReply = false) :
    let y := x.moves (fun m => Layers.behind (act m) k) ms
    Layers.Agree y.observer.tally k y.observer.inner := by
  refine moves_preserve _ (Q := fun y => Layers.Agree y.observer.tally k y.observer.inner)
    (fun m hm y hy => ?_) hx
  cases m with
  | poll w => exact agree_poll hy (hms w hm)
  | other m => exact hy.behind (act m)
  | elsewhere => exact hy

/-- Whatever goes through the outermost of several observers, all of them have noted the same. A
failure that is told goes through the others only: when each write takes bytes, they end with its
status and have counted its text and the end of the line, and the outermost one has counted nothing.
-/
theorem nested_agree {l : Layers σ k} (hfresh : Layers.Agree {} k l) (q : Http.Request) (log : ℓ)
    (now : Clock) {ms : List (Move μ ℓ)} (hms : ∀ w, .poll w ∈ ms → w.isReply = false) :
    let behind (m : μ) := Layers.behind (act m) k
    let start : Exchange (Layers σ k) ℓ := enter q l log now
    let x := start.moves behind ms
    Layers.Agree x.observer.tally k x.observer.inner ∧
      ∀ (P : σ → Prop) (status : Http.Status) (f : Failure) (more : List (Move μ ℓ)),
        Transport.Accepting P → P (Layers.base k x.observer.inner) → x.Replies status f →
        (∀ w, .poll w ∈ more → w = .reply []) →
        let r := (Work.command (.fail status f)).poll x
        let z := r.2.moves behind more
        (r.1 = .finished .done ∨ ∃ again, r.1 = .waiting again (.reply [])) ∧
          (∃ sent, Layers.Agree ⟨some status,
            x.observer.tally.produced + UInt64.ofNat ((replyText f).length + 1), sent⟩ k
              z.observer.inner) ∧
          z.observer.tally = { x.observer.tally with status := some status } := by
  intro behind start x
  have hx : Layers.Agree x.observer.tally k x.observer.inner := agree_moves act hfresh hms
  refine ⟨hx, ?_⟩
  intro P status f more ha hP htold hmore r z
  obtain ⟨hanswer, hreply⟩ := layers_of_replies ha hx hP htold
  let t : Tally := { x.observer.tally with status := some status }
  have htally : r.2.observer.tally = t := (Work.tally_fail status f x).trans (if_pos htold.2)
  let Q (y : Exchange (Layers σ k) ℓ) : Prop :=
    Layers.Reply status x.observer.tally.produced k ((replyText f).length + 1) y.observer.inner ∧
      y.observer.tally = t
  have hz : Q z := by
    refine moves_preserve behind (Q := Q) (fun m hm y hy => ?_) ⟨hreply, htally⟩
    cases m with
    | poll w =>
      obtain rfl := hmore w hm
      refine ⟨?_, (Work.tally_pollReply [] y).trans hy.2⟩
      change Layers.Reply _ _ k _ (Work.pollReply [] y).2.observer.inner
      rw [(Work.pollReply_nil y).1]
      exact hy.1.flush
    | other m => exact ⟨hy.1.behind (act m), hy.2⟩
    | elsewhere => exact hy
  exact ⟨hanswer, hz⟩

end Exchange

theorem Buffered.accepting : Transport.Accepting fun _ : Buffered => True where
  edits _ _ := id
  sends _ _ := id
  writes _ _ := id
  accepts bs _ _ hbs := ⟨bs.length, List.length_pos_iff.2 hbs, le_rfl, rfl⟩

namespace Exchange

theorem nested_agree_of_three :
    let l : Layers Buffered 2 :=
      ({ inner := ({ inner := {} } : Observer Buffered) } : Observer (Observer Buffered))
    let start : Exchange (Layers Buffered 2) MemoryLog := enter {} l {} ⟨"T", {}⟩
    let ms : List (Move Empty MemoryLog) := [.poll (.command (.sendHead .ok))]
    let behind (m : Empty) := Layers.behind m.elim 2
    let x := start.moves behind ms
    let f : Failure := ⟨"boom", []⟩
    let z := ((Work.command (.fail .internalServerError f)).poll x).2
    Layers.Agree {} 2 l ∧ (∀ w, .poll w ∈ ms → w.isReply = false) ∧
      x.Replies .internalServerError f ∧
      Layers.Agree x.observer.tally 2 x.observer.inner ∧
      z.observer.tally = ⟨some .internalServerError, 0, 0⟩ ∧
      ∀ t ∈ Layers.tallies 2 z.observer.inner,
        t.status = some .internalServerError ∧
        t.produced = UInt64.ofNat ((replyText f).length + 1) := by
  intro l start ms behind x f z
  have hfresh : Layers.Agree {} 2 l := by simp [Layers.Agree, Layers.tallies, l]
  have hms : ∀ w, .poll w ∈ ms → w.isReply = false := by simp [ms, Work.isReply]
  have htold : x.Replies .internalServerError f := ⟨rfl, record_memory _ x⟩
  obtain ⟨hx, hreply⟩ :=
    nested_agree (fun m : Empty => m.elim) hfresh {} ({} : MemoryLog) ⟨"T", {}⟩ hms
  obtain ⟨-, ⟨sent, hz⟩, htally⟩ := hreply _ _ _ [] Buffered.accepting trivial htold nofun
  refine ⟨hfresh, hms, htold, hx, htally, fun t ht => ?_⟩
  rw [hz t ht]
  exact ⟨rfl, UInt64.zero_add _⟩

end Exchange

end AccessTrail
