import AccessTrail.Log.Memory
import AccessTrail.Serving
import AccessTrail.Transport.Planned
import AccessTrail.Proofs.Handler.Outcome

namespace AccessTrail

variable {σ ℓ μ : Type}

structure Taking where
  offered : Nat
  taken : Nat
  wire : Option UInt64
  deriving DecidableEq

def Outcome.taking? (o : Outcome) : Option Taking :=
  match o.operation, o.answer with
  | .write bs, .wrote (.done (.ok n)) => some ⟨bs.length, n, o.wire⟩
  | _, _ => none

namespace Outcome

def takings (os : List Outcome) : List Taking := os.filterMap taking?

theorem takings_cons (o : Outcome) (os : List Outcome) :
    takings (o :: os) = o.taking?.toList ++ takings os := by
  rw [takings, List.filterMap_cons]
  cases o.taking? <;> rfl

end Outcome

namespace Taking

def total (ks : List Taking) : Nat := (ks.map (·.taken)).sum

theorem total_append (ks ks' : List Taking) : total (ks ++ ks') = total ks + total ks' := by
  rw [total, List.map_append, List.sum_append]
  rfl

def lastWire (ks : List Taking) : Option UInt64 := ks.getLast?.bind (·.wire)

theorem lastWire_of_quiet {ks : List Taking} (h : ∀ k ∈ ks, k.wire = none) : lastWire ks = none :=
  Option.bind_eq_none_iff.2 fun k hk => h k (List.mem_of_getLast? hk)

theorem lastWire_concat (ks : List Taking) (k : Taking) : lastWire (ks ++ [k]) = k.wire := by
  rw [lastWire, List.getLast?_concat]
  rfl

end Taking

theorem Outcome.total_taking? (o : Outcome) :
    Taking.total o.taking?.toList = o.operation.accepted o.answer := by
  obtain ⟨op, answer, wire⟩ := o
  cases op with
  | write bs => rcases answer with _ | _ | _ | ((_ | n) | again) | _ | _ <;> rfl
  | _ => rfl

variable [Transport σ]

theorem Operation.total_takings (ops : List Operation) (s : σ) :
    Taking.total (Outcome.takings (outcomes ops s)) =
      ((run ops s).1.map fun a => a.1.accepted a.2).sum := by
  induction ops generalizing s with
  | nil => rfl
  | cons op ops ih =>
    rw [outcomes, Outcome.takings_cons, Taking.total_append, ih, Outcome.total_taking?]
    rfl

/-- In the states `P`, no write takes more than it is offered, and a wire that was once reported on
stays so, whatever is done. -/
structure Transport.Accountable (act : μ → σ → σ) (P : σ → Prop) : Prop where
  operate : ∀ (op : Operation) s, P s → P (op.on s).2
  other : ∀ m s, P s → P (act m s)
  fits : ∀ bs n s, P s → (write bs s).1 = .done (.ok n) → n ≤ bs.length
  reports : ∀ (op : Operation) s, P s → (onWire s).isSome → (onWire (op.on s).2).isSome
  reports_other : ∀ m s, P s → (onWire s).isSome → (onWire (act m s)).isSome

structure Counted (ks : List Taking) (t : Tally) (s : σ) : Prop where
  produced : t.produced = UInt64.ofNat (Taking.total ks)
  sent : t.sent = (Taking.lastWire ks).getD t.produced
  fits : ∀ k ∈ ks, k.taken ≤ k.offered
  reported : ∀ k ∈ ks, k.wire.isSome → (Taking.lastWire ks).isSome ∧ (Transport.onWire s).isSome

theorem Tally.counts_after {t : Tally} {o : Outcome} (h : o.taking? = none) :
    (t.after o).produced = t.produced ∧ (t.after o).sent = t.sent := by
  unfold Tally.after
  split
  · simp_all [Outcome.taking?]
  all_goals exact ⟨rfl, rfl⟩

theorem Tally.after_of_taking {t : Tally} {o : Outcome} {k : Taking} (h : o.taking? = some k) :
    t.after o = t.begin.count k.taken k.wire := by
  unfold Outcome.taking? at h
  split at h
  next ho ha =>
    cases h
    rw [Tally.after, ho, ha]
  · cases h

namespace Counted

variable {ks : List Taking} {t t' : Tally} {s s' : σ}

theorem idle (h : Counted ks t s) (hproduced : t'.produced = t.produced) (hsent : t'.sent = t.sent)
    (hwire : (Transport.onWire s).isSome → (Transport.onWire s').isSome) : Counted ks t' s' where
  produced := hproduced.trans h.produced
  sent := by rw [hsent, hproduced, h.sent]
  fits := h.fits
  reported k hk hsome := ⟨(h.reported k hk hsome).1, hwire (h.reported k hk hsome).2⟩

theorem take (h : Counted ks t s) {k : Taking} (hk : k.taken ≤ k.offered)
    (hnow : k.wire = Transport.onWire s')
    (hwire : (Transport.onWire s).isSome → (Transport.onWire s').isSome) :
    Counted (ks ++ [k]) (t.begin.count k.taken k.wire) s' := by
  have hlast : (Taking.lastWire ks).isSome → k.wire.isSome := by
    intro hsome
    obtain ⟨wire, hwire'⟩ := Option.isSome_iff_exists.1 hsome
    obtain ⟨k', hk', hwire''⟩ := Option.bind_eq_some_iff.1 hwire'
    rw [hnow]
    exact hwire (h.reported k' (List.mem_of_getLast? hk') (by rw [hwire'']; rfl)).2
  refine ⟨?_, ?_, ?_, ?_⟩
  · rw [Taking.total_append, UInt64.ofNat_add, ← h.produced]
    simp [Tally.count, Tally.begin, Taking.total]
  · rw [Taking.lastWire_concat]
    cases hkw : k.wire with
    | some wire => rfl
    | none =>
      -- no report so far, so that both counts have run alike
      have hnone : Taking.lastWire ks = none := by
        rw [← Option.not_isSome_iff_eq_none]
        intro hsome
        rw [hkw] at hlast
        exact absurd (hlast hsome) (by simp)
      have hsent := h.sent
      rw [hnone, Option.getD_none] at hsent
      simp [Tally.count, Tally.begin, hsent]
  · intro k' hk'
    rcases List.mem_append.1 hk' with hk' | hk'
    · exact h.fits k' hk'
    · rwa [List.mem_singleton.1 hk']
  · intro k' hk' hsome
    rw [Taking.lastWire_concat, hnow, and_self]
    rcases List.mem_append.1 hk' with hk' | hk'
    · exact hwire (h.reported k' hk' hsome).2
    · rwa [List.mem_singleton.1 hk', hnow] at hsome

end Counted

namespace Transport.Accountable

variable {act : μ → σ → σ} {P : σ → Prop} {ks : List Taking} {t : Tally} {s : σ}

theorem counted_on (ha : Accountable act P) (hs : P s) (h : Counted ks t s) (op : Operation) :
    Counted (ks ++ (op.outcome s).taking?.toList) (t.after (op.outcome s)) (op.on s).2 := by
  have hwire := ha.reports op s hs
  cases hk : (op.outcome s).taking? with
  | none =>
    obtain ⟨hproduced, hsent⟩ := Tally.counts_after (t := t) hk
    rw [Option.toList_none, List.append_nil]
    exact h.idle hproduced hsent hwire
  | some k =>
    rw [Tally.after_of_taking hk]
    cases op with
    | write bs =>
      unfold Outcome.taking? at hk
      split at hk
      next n ho hanswer =>
        cases ho
        cases hk
        exact h.take (ha.fits bs _ s hs (Answer.wrote.inj hanswer)) rfl hwire
      · cases hk
    | headers | edit | sendHead | flush | close | handOver => cases hk

theorem counted_outcomes (ha : Accountable act P) (hs : P s) (h : Counted ks t s)
    (ops : List Operation) :
    Counted (ks ++ Outcome.takings (Operation.outcomes ops s))
      ((Operation.outcomes ops s).foldl Tally.after t)
      (Operation.run ops s).2 := by
  induction ops generalizing ks t s with
  | nil => rwa [Operation.outcomes, Outcome.takings, List.filterMap_nil, List.append_nil]
  | cons op ops ih =>
    have hrest := ih (ha.operate op s hs) (ha.counted_on hs h op)
    rw [Operation.outcomes, Outcome.takings_cons, ← List.append_assoc]
    exact hrest

end Transport.Accountable

namespace Work

variable [Log ℓ]

def takings (w : Work) (x : Exchange σ ℓ) : List Taking := Outcome.takings (w.asked x)

theorem operations_asks (w : Work) (x : Exchange σ ℓ) {op : Operation} (h : op ∈ w.operations x) :
    w.Asks op := by
  let P (s : History x.observer.inner) : Prop := ∀ op ∈ s.past, w.Asks op
  refine poll_keeps (P := P) (fun op s hop hs => ?_) (x := x.remember) nofun op h
  rcases History.on_cases op s with hon | ⟨hon, -⟩ <;> rw [hon]
  · intro op' hop'
    rcases List.mem_append.1 hop' with hop' | hop'
    · exact hs op' hop'
    · rwa [List.mem_singleton.1 hop']
  · exact hs

end Work

namespace Transport

def Progress.Leaves (rest : Bytes) : Progress → Prop
  | finished (.ok ()) => rest = []
  | finished (.error _) => rest ≠ []
  | waiting _ rest' => rest' = rest ∧ rest ≠ []
  | overrun => False

theorem Accountable.accepted_sendAll {act : μ → σ → σ} {P : σ → Prop} (ha : Accountable act P)
    {start : σ} (bs : Bytes) (h : History start) (hs : P h.now) :
    ∃ part rest, bs = part ++ rest ∧ (sendAll bs h).2.accepted = h.accepted + part.length ∧
      (sendAll bs h).1.Leaves rest := by
  have hwrite : ∀ {bs : Bytes} {h h' : History start} {answer}, write bs h = (answer, h') →
      h' = h.add (.write bs) ∧ (write bs h.now).1 = answer := by
    intro bs h h' answer hw
    cases hw
    exact ⟨rfl, rfl⟩
  have hadd : ∀ {bs : Bytes} {h h' : History start} {answer}, write bs h = (answer, h') →
      h'.accepted = h.accepted + (Operation.write bs).accepted (.wrote answer) := by
    intro bs h h' answer hw
    obtain ⟨rfl, rfl⟩ := hwrite hw
    exact History.accepted_add (.write bs) h
  fun_induction sendAll bs h with
  | case1 h => exact ⟨[], [], rfl, rfl, rfl⟩
  | case2 h b bs again h' hw => exact ⟨[], b :: bs, rfl, hadd hw, rfl, by simp⟩
  | case3 h b bs f h' hw => exact ⟨[], b :: bs, rfl, hadd hw, rfl, by simp⟩
  | case4 h b bs f h' hw => exact ⟨[], b :: bs, rfl, hadd hw, by simp [Progress.Leaves]⟩
  | case5 h b bs h' hw => exact ⟨[], b :: bs, rfl, hadd hw, by simp [Progress.Leaves]⟩
  | case6 h b bs n h' hw hn ih =>
    have hs' : P h'.now := by
      rw [(hwrite hw).1, History.now_add]
      exact ha.operate _ _ hs
    obtain ⟨part, rest, hsplit, haccepted, hleaves⟩ := ih hs'
    refine ⟨b :: (bs.take n ++ part), rest, ?_, ?_, hleaves⟩
    · rw [List.cons_append, List.append_assoc, ← hsplit, List.take_append_drop]
    · rw [haccepted, hadd hw, Operation.accepted, List.length_cons, List.length_append,
        List.length_take_of_le hn]
      omega
  | case7 h b bs n h' hw hn =>
    have hfits := ha.fits _ _ _ hs (hwrite hw).2
    rw [List.length_cons] at hfits
    omega

end Transport

namespace Work

variable [Log ℓ] {w : Work} {x : Exchange σ ℓ}

inductive Takes : Work → Polled → List Taking → Prop
  | wrote (bs n wire) : Takes (.command (.write bs)) (.finished (.wrote n)) [⟨bs.length, n, wire⟩]
  | refused (bs f) : Takes (.command (.write bs)) (.finished (.failed f)) []
  | notReady (bs again) : Takes (.command (.write bs)) (.finished (.notReady again)) []
  | sent {bs ks} : Taking.total ks = bs.length →
      Takes (.command (.writeAll bs)) (.finished .done) ks
  | broken {part rest ks} (f) : Taking.total ks = part.length → rest ≠ [] →
    Takes (.command (.writeAll (part ++ rest))) (.finished (.failed f)) ks
  | waiting {part rest ks} (again) : Taking.total ks = part.length → rest ≠ [] →
    Takes (.command (.writeAll (part ++ rest))) (.waiting again (.command (.writeAll rest))) ks
  | nothing (w p) : (∀ bs, w ≠ .command (.write bs)) → (∀ bs, w ≠ .command (.writeAll bs)) →
      Takes w p []

theorem takings_of_reply (hw : w.isReply) : w.takings x = [] := by
  rw [takings, asked, if_pos hw]
  rfl

theorem takings_eq (hw : w.isReply = false) :
    w.takings x = Outcome.takings (Operation.outcomes (w.operations x) x.observer.inner) := by
  rw [takings, asked, if_neg (by simp [hw])]
  rfl

theorem total_takings (hw : w.isReply = false) : Taking.total (w.takings x) = w.accepted x := by
  rw [takings_eq hw]
  exact Operation.total_takings _ _

theorem takings_eq_nil (hw : w.isReply = false → ∀ bs, ¬w.Asks (.write bs)) : w.takings x = [] := by
  cases hreply : w.isReply with
  | true => exact takings_of_reply hreply
  | false =>
    rw [takings_eq hreply]
    refine List.filterMap_eq_nil_iff.2 fun o ho => ?_
    have hasks := w.operations_asks x (Operation.mem_outcomes ho)
    unfold Outcome.taking?
    split
    next bs n hop _ => exact absurd (hop ▸ hasks) (hw hreply bs)
    next => rfl

def progressed : Transport.Progress → Polled
  | .finished answer => .finished (settled answer)
  | .waiting again rest => .waiting again (.command (.writeAll rest))
  | .overrun => .crashed overrunReason

theorem pollCommand_writeAll (bs : Bytes) (x : Exchange σ ℓ) :
    pollCommand (.writeAll bs) x =
      (progressed (Transport.sendAll bs x.observer).1,
        setObserver (Transport.sendAll bs x.observer).2 x) := by
  rw [pollCommand]
  rcases Transport.sendAll bs x.observer with ⟨_ | _ | _, o⟩ <;> rfl

theorem takes_write (bs : Bytes) (x : Exchange σ ℓ) :
    Takes (.command (.write bs)) ((command (.write bs)).poll x).1
      ((command (.write bs)).takings x) := by
  let o := (Operation.write bs).outcome x.observer.inner
  have htakings : (command (.write bs)).takings x = o.taking?.toList := by
    rw [takings_eq rfl,
      show (command (.write bs)).operations x = [.write bs] from operations_command (.write bs) x]
    exact (Outcome.takings_cons o []).trans (List.append_nil _)
  have hpolled : ((command (.write bs)).poll x).1 = (Operation.write bs).polled o.answer := by
    refine (pollCommand_operation (.write bs) x).1.trans (congrArg _ ?_)
    exact congrArg Prod.fst (Observer.passes_inner.on (.write bs) x.observer).symm
  rw [htakings, hpolled]
  change Takes _ ((Operation.write bs).polled (.wrote (Transport.write bs x.observer.inner).1))
    (Outcome.taking? ⟨.write bs, .wrote (Transport.write bs x.observer.inner).1, o.wire⟩).toList
  rcases (Transport.write bs x.observer.inner).1 with (f | n) | again
  · exact .refused bs f
  · exact .wrote bs n o.wire
  · exact .notReady bs again

end Work

namespace Transport.Accountable

variable [Log ℓ] {act : μ → σ → σ} {P : σ → Prop} {x : Exchange σ ℓ} {ks : List Taking}

theorem keeps_poll (ha : Accountable act P) (hx : P x.observer.inner) (w : Work) :
    P (w.poll x).2.observer.inner := Work.poll_keeps (fun op s _ => ha.operate op s) hx

theorem takes_writeAll (ha : Accountable act P) (hx : P x.observer.inner) (bs : Bytes) :
    Work.Takes (.command (.writeAll bs)) ((Work.command (.writeAll bs)).poll x).1
      ((Work.command (.writeAll bs)).takings x) := by
  let w := Work.command (.writeAll bs)
  let r := Transport.sendAll bs ({} : History x.observer.inner)
  have hinner : r = (Transport.sendAll bs x.remember.observer).map id Observer.inner :=
    Observer.passes_inner.sendAll bs x.remember.observer
  have hpoll : w.poll x.remember = _ := Work.pollCommand_writeAll bs x.remember
  have hpolled : (w.poll x).1 = Work.progressed r.1 := by
    refine (congrArg Prod.fst (w.poll_map History.carries_now x.remember)).trans ?_
    change (w.poll x.remember).1 = _
    rw [hpoll, hinner]
    rfl
  have htotal : Taking.total (w.takings x) = r.2.accepted := by
    rw [Work.total_takings rfl, Work.accepted, hpoll, hinner]
    rfl
  change Work.Takes w (w.poll x).1 (w.takings x)
  obtain ⟨part, rest, rfl, haccepted, hleaves⟩ :=
    ha.accepted_sendAll bs ({} : History x.observer.inner) hx
  change r.2.accepted = 0 + part.length at haccepted
  change r.1.Leaves rest at hleaves
  rw [haccepted, Nat.zero_add] at htotal
  rw [hpolled]
  generalize r.1 = progress at hleaves ⊢
  rcases progress with (f | _) | ⟨again, rest'⟩ | _
  · exact .broken f htotal hleaves
  · refine .sent (htotal.trans ?_)
    rw [show rest = [] from hleaves, List.append_nil]
  · obtain ⟨rfl, hrest⟩ := hleaves
    exact .waiting again htotal hrest
  · exact hleaves.elim

theorem takes (ha : Accountable act P) (hx : P x.observer.inner) (w : Work) :
    w.Takes (w.poll x).1 (w.takings x) := by
  by_cases hwrite : ∃ bs, w = .command (.write bs)
  · obtain ⟨bs, rfl⟩ := hwrite
    exact Work.takes_write bs x
  by_cases hall : ∃ bs, w = .command (.writeAll bs)
  · obtain ⟨bs, rfl⟩ := hall
    exact ha.takes_writeAll hx bs
  have hnil : w.takings x = [] := by
    refine Work.takings_eq_nil fun hreply bs hasks => ?_
    cases hasks with
    | write => exact hwrite ⟨_, rfl⟩
    | writeAll => exact hall ⟨_, rfl⟩
    | failWrite | replyWrite => cases hreply
  rw [hnil]
  exact .nothing w _ (fun bs h => hwrite ⟨bs, h⟩) (fun bs h => hall ⟨bs, h⟩)

theorem counted_poll (ha : Accountable act P) (hx : P x.observer.inner)
    (h : Counted ks x.observer.tally x.observer.inner) (w : Work) :
    Counted (ks ++ w.takings x) (w.poll x).2.observer.tally (w.poll x).2.observer.inner := by
  cases hw : w.isReply with
  | true =>
    have hkept : P (w.poll x).2.observer.inner ∧ ((onWire x.observer.inner).isSome →
        (onWire (w.poll x).2.observer.inner).isSome) := by
      refine Work.poll_keeps (P := fun s => P s ∧
        ((onWire x.observer.inner).isSome → (onWire s).isSome))
        ?_ ⟨hx, id⟩
      exact fun op s _ hs => ⟨ha.operate op s hs.1, fun hwire => ha.reports op s hs.1 (hs.2 hwire)⟩
    obtain ⟨hproduced, hsent⟩ := Work.counts_reply hw x
    rw [Work.takings_of_reply hw, List.append_nil]
    exact h.idle hproduced hsent hkept.2
  | false =>
    rw [Work.takings_eq hw, Work.tally_poll hw, Work.poll_operations]
    exact ha.counted_outcomes hx h _

end Transport.Accountable

namespace Planned

def Honest (p : Planned) : Prop := ∀ w ∈ p.writes, ∀ n, w.answer ≠ .claim n

theorem take_kept (bs : Bytes) (p : Planned) (answer : WriteAnswer) :
    (p.take bs answer).2.writes = p.writes ∧ (p.take bs answer).2.wire = p.wire ∧
      (p.take bs answer).2.halving = p.halving := by
  cases answer <;> exact ⟨rfl, rfl, rfl⟩

theorem take_fits {bs : Bytes} {p : Planned} {answer : WriteAnswer} (ha : ∀ n, answer ≠ .claim n)
    {n : Nat} (h : (p.take bs answer).1 = .done (.ok n)) : n ≤ bs.length := by
  cases answer with
  | claim n => exact absurd rfl (ha n)
  | take limit =>
    cases h
    exact List.length_take_le' _ bs
  | fail | wait => cases h

theorem isSome_onWire (p : Planned) :
    (Transport.onWire p).isSome = (p.halving || p.wire.isSome) := by
  simp only [Transport.onWire]
  split <;> simp [*]

theorem on_kept (op : Operation) (p : Planned) :
    (op.on p).2.writes <:+ p.writes ∧ (op.on p).2.halving = p.halving ∧
      (p.wire.isSome → (op.on p).2.wire.isSome) := by
  cases op with
  | headers | edit | sendHead | flush | close => exact ⟨List.suffix_refl _, rfl, id⟩
  | handOver =>
    simp only [Operation.on, Transport.handOver]
    rcases p.handovers with _ | _ | n <;> exact ⟨List.suffix_refl _, rfl, id⟩
  | write bs =>
    simp only [Operation.on, Transport.write]
    split
    next hw =>
      obtain ⟨hwrites, hwire, hhalving⟩ := take_kept bs p (.take none)
      exact ⟨by rw [hwrites], hhalving, by rw [hwire]; exact id⟩
    next w rest hw =>
      obtain ⟨hwrites, hwire, hhalving⟩ :=
        take_kept bs { p with writes := rest, wire := w.wire <|> p.wire } w.answer
      refine ⟨?_, hhalving, ?_⟩
      · rw [hwrites, hw]
        exact List.suffix_cons w rest
      · rw [hwire]
        cases w.wire with
        | none => exact id
        | some => exact fun _ => rfl

theorem reports_on (op : Operation) {p : Planned} (h : (Transport.onWire p).isSome) :
    (Transport.onWire (op.on p).2).isSome := by
  obtain ⟨-, hhalving, hwire⟩ := on_kept op p
  rw [isSome_onWire, Bool.or_eq_true] at h ⊢
  exact h.imp hhalving.trans hwire

theorem accountable : Transport.Accountable (nofun : Empty → Planned → Planned) Honest where
  operate op p hp w hw := hp w ((on_kept op p).1.subset hw)
  other := nofun
  reports_other := nofun
  fits bs n p hp h := by
    simp only [Transport.write] at h
    split at h
    · exact take_fits (by simp) h
    next w rest hw => exact take_fits (hp w (by simp [hw])) h
  reports op _ _ := reports_on op

end Planned

namespace Exchange

variable [Log ℓ] (act : μ → σ → σ)

def takings (x : Exchange σ ℓ) (ms : List (Move μ ℓ)) : List Taking :=
  Outcome.takings (x.asked act ms)

theorem takings_cons (x : Exchange σ ℓ) (m : Move μ ℓ) (ms : List (Move μ ℓ)) :
    x.takings act (m :: ms) =
      (match m with
        | .poll w => w.takings x
        | _ => []) ++ (x.move act m).takings act ms := by
  cases m with
  | poll w => exact List.filterMap_append
  | other | elsewhere => rfl

variable {act}

theorem counted_moves {P : σ → Prop} (ha : Transport.Accountable act P) {x : Exchange σ ℓ}
    {ks : List Taking} (hx : P x.observer.inner) (h : Counted ks x.observer.tally x.observer.inner)
    (ms : List (Move μ ℓ)) :
    P (x.moves act ms).observer.inner ∧
      Counted (ks ++ x.takings act ms) (x.moves act ms).observer.tally
      (x.moves act ms).observer.inner := by
  induction ms generalizing x ks with
  | nil => exact ⟨hx, by rwa [show x.takings act [] = [] from rfl, List.append_nil]⟩
  | cons m ms ih =>
    rw [takings_cons, ← List.append_assoc]
    cases m with
    | poll w => exact ih (ha.keeps_poll hx w) (ha.counted_poll hx h w)
    | other m =>
      rw [List.append_nil]
      exact ih (ha.other m _ hx) (h.idle rfl rfl (ha.reports_other m _ hx))
    | elsewhere =>
      rw [List.append_nil]
      exact ih hx h

/-- What is counted is what was taken, in one write or many, with waits and failures in between;
what is sent is the same until the transport reports of its wire, and then the last of its reports.
Neither count runs over before `2 ^ 64` bytes were offered. A poll adds what it took to what was
counted, and if it took nothing it leaves both counts as they are. -/
theorem counters_of_takings {P : σ → Prop} (ha : Transport.Accountable act P) {s : σ} (hs : P s)
    (q : Http.Request) (log : ℓ) (now : Clock) (ms : List (Move μ ℓ)) :
    let start : Exchange σ ℓ := enter q s log now
    let x := start.moves act ms
    let ks := start.takings act ms
    let t := x.observer.tally
    t.produced = UInt64.ofNat (Taking.total ks) ∧
      ((∀ k ∈ ks, k.wire = none) → t.sent = t.produced) ∧
      ((∃ k ∈ ks, k.wire ≠ none) →
        ∃ k wire, ks.getLast? = some k ∧ k.wire = some wire ∧ t.sent = wire) ∧
      ((ks.map (·.offered)).sum < 2 ^ 64 → t.produced.toNat = Taking.total ks) ∧
      ∀ w : Work,
        let y := (w.poll x).2.observer.tally
        w.Takes (w.poll x).1 (w.takings x) ∧
          y.produced = t.produced + UInt64.ofNat (Taking.total (w.takings x)) ∧
          (w.takings x = [] → y.sent = t.sent) := by
  intro start x ks t
  have hstart : Counted [] start.observer.tally start.observer.inner :=
    ⟨rfl, rfl, nofun, nofun⟩
  obtain ⟨hx, h⟩ := counted_moves ha hs hstart ms
  rw [List.nil_append] at h
  refine ⟨h.produced, ?_, ?_, ?_, ?_⟩
  · intro hquiet
    rw [h.sent, Taking.lastWire_of_quiet hquiet, Option.getD_none]
  · rintro ⟨k, hk, hwire⟩
    obtain ⟨wire, hlast⟩ :=
      Option.isSome_iff_exists.1 (h.reported k hk (Option.isSome_iff_ne_none.2 hwire)).1
    obtain ⟨k', hk', hwire'⟩ := Option.bind_eq_some_iff.1 hlast
    exact ⟨k', wire, hk', hwire', by rw [h.sent, hlast, Option.getD_some]⟩
  · intro hoffered
    have htotal : Taking.total ks < 2 ^ 64 := lt_of_le_of_lt (List.sum_le_sum h.fits) hoffered
    rw [h.produced, UInt64.toNat_ofNat_of_lt' htotal]
  · intro w y
    have hy := ha.counted_poll hx h w
    refine ⟨ha.takes hx w, ?_, ?_⟩
    · rw [hy.produced, Taking.total_append, UInt64.ofNat_add, ← h.produced]
    · intro hnil
      rw [hnil, List.append_nil] at hy
      rw [hy.sent, h.sent, hy.produced, h.produced]

theorem counters_of_takings_halfway :
    let p : Planned :=
      { writes := [⟨none, .take (some 2)⟩, ⟨none, .wait true⟩, ⟨some 9, .take none⟩] }
    let start : Exchange Planned MemoryLog := enter {} p {} ⟨"T", {}⟩
    let ms : List (Move Empty MemoryLog) := [.poll (.command (.write [0x61, 0x62, 0x63])),
      .poll (.command (.write [0x63])), .poll (.command (.fail .internalServerError ⟨"boom", []⟩)),
      .poll (.command (.write [0x63]))]
    let t := (start.moves nofun ms).observer.tally
    p.Honest ∧ t.produced = 3 ∧ t.produced.toNat = 3 ∧ t.sent = 9 := by
  intro p start ms t
  have hp : p.Honest := by simp [Planned.Honest, p]
  have hks : start.takings nofun ms = [⟨3, 2, none⟩, ⟨1, 1, some 9⟩] := rfl
  obtain ⟨hproduced, -, hsent, hfits, -⟩ :=
    counters_of_takings Planned.accountable hp {} ({} : MemoryLog) ⟨"T", {}⟩ ms
  rw [hks] at hproduced hsent hfits
  obtain ⟨k, wire, hlast, hwire, hsent⟩ := hsent ⟨⟨1, 1, some 9⟩, by simp, by simp⟩
  cases hlast
  cases hwire
  exact ⟨hp, hproduced, hfits (by decide), hsent⟩

end Exchange

end AccessTrail
