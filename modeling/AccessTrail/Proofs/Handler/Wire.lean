import AccessTrail.Proofs.Handler.Counting
import AccessTrail.Proofs.Handler.Failure

namespace AccessTrail

variable {σ ℓ : Type} [Transport σ]

/-- In the states `P`, whatever is done, it is known what is on the wire. -/
structure Transport.Reporting (P : σ → Prop) : Prop where
  operate : ∀ (op : Operation) s, P s → P (op.on s).2
  reports : ∀ s, P s → (onWire s).isSome

def Operation.takes (op : Operation) (s : σ) : Bool := (op.outcome s).taking?.isSome

theorem Outcome.wire_of_taking {o : Outcome} {k : Taking} (h : o.taking? = some k) :
    k.wire = o.wire := by
  unfold taking? at h
  split at h
  · cases h
    rfl
  · cases h

namespace Observer

def Abreast (o : Observer σ) : Prop := Transport.onWire o.inner = some o.tally.sent

variable {P : σ → Prop} {o : Observer σ} {op : Operation}

theorem inner_run (ops : List Operation) (o : Observer σ) :
    (Operation.run ops o).2.inner = (Operation.run ops o.inner).2 := by
  induction ops generalizing o with
  | nil => rfl
  | cons op ops ih =>
    rw [Operation.run, Operation.run, ← inner_on]
    exact ih _

theorem sameBooks_on (op : Operation) (o : Observer σ) : o.SameBooks (op.on o).2 := by
  cases op with
  | headers | edit | sendHead | flush | close => exact ⟨rfl, rfl⟩
  | write bs => exact sameBooks_write bs o
  | handOver =>
    rw [Operation.on]
    split
    next => exact ⟨rfl, rfl⟩
    next h => exact sameBooks_handOver h

theorem sameBooks_run (ops : List Operation) (o : Observer σ) :
    o.SameBooks (Operation.run ops o).2 := by
  refine Operation.run_keeps (P := o.SameBooks) (fun op o' ho => ?_) ops ⟨rfl, rfl⟩
  obtain ⟨hvisit, hlogged⟩ := sameBooks_on op o'
  exact ⟨hvisit.trans ho.1, hlogged.trans ho.2⟩

theorem abreast_of_takes (hr : Transport.Reporting P) (ho : P o.inner)
    (h : op.takes o.inner = true) :
    (op.on o).2.Abreast := by
  obtain ⟨k, hk⟩ := Option.isSome_iff_exists.1 h
  obtain ⟨wire, hwire⟩ := Option.isSome_iff_exists.1 (hr.reports _ (hr.operate op _ ho))
  have hkwire : k.wire = some wire := (Outcome.wire_of_taking hk).trans hwire
  rw [Abreast, inner_on, hwire, tally_on, Tally.after_of_taking hk, hkwire]
  rfl

theorem sent_of_not_takes (h : op.takes o.inner = false) :
    (op.on o).2.tally.sent = o.tally.sent := by
  rw [tally_on]
  exact (Tally.counts_after (Option.isSome_eq_false_iff.1 h |> Option.isNone_iff_eq_none.1)).2

theorem abreast_on_iff (ho : o.Abreast) (h : op.takes o.inner = false) :
    (op.on o).2.Abreast ↔ Transport.onWire (op.on o.inner).2 = Transport.onWire o.inner := by
  rw [Abreast, inner_on, sent_of_not_takes h, ← ho]

theorem reporting_run (hr : Transport.Reporting P) (ho : P o.inner) (ops : List Operation) :
    P (Operation.run ops o).2.inner := by
  rw [inner_run]
  exact Operation.run_keeps hr.operate ops ho

theorem abreast_throughout (hr : Transport.Reporting P) (hP : P o.inner) (ho : o.Abreast)
    (ops : List Operation) :
    (∀ past, past <+: ops → (Operation.run past o).2.Abreast) ↔
      ∀ past op, past ++ [op] <+: ops → op.takes (Operation.run past o).2.inner = false →
        Transport.onWire (Operation.run (past ++ [op]) o).2.inner =
          Transport.onWire (Operation.run past o).2.inner := by
  constructor
  · intro h past op hpast htakes
    have hbefore := h past ((List.prefix_append past [op]).trans hpast)
    have hafter := h _ hpast
    rw [Operation.run_concat] at hafter ⊢
    rw [inner_on]
    exact (abreast_on_iff hbefore htakes).1 hafter
  · intro h past
    induction past using List.reverseRecOn with
    | nil => exact fun _ => ho
    | append_singleton past op ih =>
      intro hpast
      have hbefore := ih ((List.prefix_append past [op]).trans hpast)
      cases htakes : op.takes (Operation.run past o).2.inner with
      | true =>
        rw [Operation.run_concat]
        exact abreast_of_takes hr (reporting_run hr hP past) htakes
      | false =>
        have hstill := h past op hpast htakes
        rw [Operation.run_concat] at hstill ⊢
        rw [inner_on] at hstill
        exact (abreast_on_iff hbefore htakes).2 hstill

theorem abreast_when_taken (hr : Transport.Reporting P) (hP : P o.inner) (ho : o.Abreast)
    (ops : List Operation) :
    ∃ past rest, ops = past ++ rest ∧ (Operation.run past o).2.Abreast ∧
      (Operation.run past o).2.tally.sent = (Operation.run ops o).2.tally.sent ∧
      ∀ part op, part ++ [op] <+: rest →
        op.takes (Operation.run (past ++ part) o).2.inner = false := by
  have hnone : ∀ {Q : List Operation → Operation → Prop} part op, part ++ [op] <+: [] → Q part op :=
    fun part op h => absurd (List.prefix_nil.1 h) (by simp)
  induction ops using List.reverseRecOn with
  | nil => exact ⟨[], [], rfl, ho, rfl, hnone⟩
  | append_singleton ops op ih =>
    rw [Operation.run_concat]
    cases htakes : op.takes (Operation.run ops o).2.inner with
    | true =>
      refine ⟨ops ++ [op], [], (List.append_nil _).symm, ?_, ?_, hnone⟩
      · rw [Operation.run_concat]
        exact abreast_of_takes hr (reporting_run hr hP ops) htakes
      · rw [Operation.run_concat]
    | false =>
      obtain ⟨past, rest, rfl, habreast, hsent, hrest⟩ := ih
      refine ⟨past, rest ++ [op], List.append_assoc .., habreast, ?_, ?_⟩
      · rw [sent_of_not_takes htakes, hsent]
      · intro part op' hpart
        rcases List.prefix_concat_iff.1 hpart with heq | hpart
        · obtain ⟨rfl, hop⟩ := List.append_inj' heq rfl
          cases hop
          exact htakes
        · exact hrest part op' hpart

end Observer

namespace Exchange

variable [Log ℓ]

theorem observer_perform (ops : List Operation) (x : Exchange σ ℓ) :
    (x.perform (ops.map .operate)).2.observer = (Operation.run ops x.observer).2 := by
  induction ops generalizing x with
  | nil => rfl
  | cons op ops ih =>
    rw [Operation.run, ← (Work.pollCommand_operation op x).2]
    exact ih _

/-- What an observer counts as sent is what was on the wire when bytes were taken last. So says the
record, and so it is decided whether a failure is told to the client. What is on the wire meanwhile
is the same as long as the wire moves only when bytes are taken. -/
theorem wire_when_taken {P : σ → Prop} (hr : Transport.Reporting P) {s : σ} (hs : P s)
    (hempty : Transport.onWire s = some 0) (q : Http.Request) (log : ℓ) (now : Clock)
    (ops : List Operation) :
    let start : Exchange σ ℓ := enter q s log now
    let after (ops : List Operation) := (start.perform (ops.map .operate)).2
    let x := after ops
    ((∀ past, past <+: ops → (after past).observer.Abreast) ↔
      ∀ past op, past ++ [op] <+: ops → op.takes (after past).observer.inner = false →
        Transport.onWire (after (past ++ [op])).observer.inner =
          Transport.onWire (after past).observer.inner) ∧
    (∀ op, op.takes x.observer.inner = true → (after (ops ++ [op])).observer.Abreast) ∧
    ∃ past rest, ops = past ++ rest ∧
      (∀ part op, part ++ [op] <+: rest → op.takes (after (past ++ part)).observer.inner = false) ∧
      let wire := Transport.onWire (after past).observer.inner
      wire = some x.observer.tally.sent ∧
        (∃ e : Entry, wire = some e.bytes ∧
          ∀ crashed, (x.finish crashed).2.log = (Log.append (x.line e).bytes x.log).2) ∧
        ∀ status f, (x.record (failing status f)).1 = none →
          ((Work.command (.fail status f)).operations x ≠ [] ↔ wire = some 0) := by
  intro start after x
  have hafter : ∀ ops, (after ops).observer = (Operation.run ops start.observer).2 :=
    fun ops => observer_perform ops start
  have hstart : start.observer.Abreast := hempty
  refine ⟨?_, ?_, ?_⟩
  · simp only [hafter]
    exact Observer.abreast_throughout hr hs hstart ops
  · intro op htakes
    rw [show x.observer = _ from hafter ops] at htakes
    rw [hafter, Operation.run_concat]
    exact Observer.abreast_of_takes hr (Observer.reporting_run hr hs ops) htakes
  · obtain ⟨past, rest, hops, habreast, hsent, hrest⟩ :=
      Observer.abreast_when_taken hr hs hstart ops
    refine ⟨past, rest, hops, ?_, ?_⟩
    · simp only [hafter]
      exact hrest
    · intro wire
      have hwire : wire = some x.observer.tally.sent := by
        have hx : x.observer = _ := hafter ops
        change Transport.onWire (after past).observer.inner = _
        rw [hafter, hx, ← hsent]
        exact habreast
      have hbooks : start.observer.SameBooks x.observer := by
        rw [show x.observer = _ from hafter ops]
        exact Observer.sameBooks_run ops start.observer
      refine ⟨hwire, ⟨x.closing, hwire, fun crashed => (recorded_record hbooks.2).log⟩,
        fun status f hrecord => ?_⟩
      rw [hwire, Option.some_inj]
      exact Work.operations_fail_ne_nil hrecord

end Exchange

theorem Planned.reporting : Transport.Reporting fun p : Planned => (Transport.onWire p).isSome where
  operate op _ := reports_on op
  reports _ := id

namespace Exchange

theorem wire_when_taken_of_halving :
    let p : Planned := { halving := true }
    let start : Exchange Planned MemoryLog := enter {} p {} ⟨"T", {}⟩
    let text : Operation := .write [0x61, 0x62, 0x63, 0x64]
    let x := (start.perform ([text].map .operate)).2
    (Transport.onWire p).isSome ∧ Transport.onWire p = some 0 ∧
      text.takes start.observer.inner = true ∧
      x.observer.Abreast ∧ x.observer.tally.sent = 2 := by
  intro p start text x
  have hreports : (Transport.onWire p).isSome := rfl
  have hempty : Transport.onWire p = some 0 := by decide
  have htakes : text.takes start.observer.inner = true := rfl
  obtain ⟨-, htaken, -⟩ :=
    wire_when_taken Planned.reporting hreports hempty {} ({} : MemoryLog) ⟨"T", {}⟩ []
  exact ⟨hreports, hempty, htakes, htaken text htakes, by decide⟩

/-- A write that fails halfway puts bytes on the wire that are not counted. -/
theorem not_abreast_of_failed_write :
    ¬∀ (p : Planned) (ops : List Operation),
      let start : Exchange Planned MemoryLog := enter {} p {} ⟨"T", {}⟩
      Transport.onWire p = some 0 → (start.perform (ops.map .operate)).2.observer.Abreast := by
  intro h
  let failure : WritePlan := ⟨some 7, .fail ⟨.connectionReset, .ofKind⟩⟩
  have habreast := h { writes := [failure], wire := some 0 } [.write [0x61]] rfl
  cases habreast

end Exchange

end AccessTrail
