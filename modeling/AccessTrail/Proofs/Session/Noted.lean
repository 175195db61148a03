import AccessTrail.Proofs.Handler.Statuses
import AccessTrail.Proofs.Session.Answer

namespace AccessTrail

namespace Operation

def HeadFirst (ops : List Operation) : Prop :=
  ∀ before status after, ops = before ++ .sendHead status :: after → ∀ op ∈ before, op.event? = none

theorem HeadFirst.of_cons {op : Operation} {ops : List Operation} (h : HeadFirst (op :: ops)) :
    HeadFirst ops := by
  rintro before status after rfl op' hop'
  exact h (op :: before) status after rfl op' (List.mem_cons_of_mem _ hop')

theorem headFirst_cons {op : Operation} {ops : List Operation}
    (h : ∀ status, .sendHead status ∉ ops) :
    HeadFirst (op :: ops) := by
  intro before status after hsplit
  cases before with
  | nil => exact fun _ hmem => absurd hmem List.not_mem_nil
  | cons op' before =>
    rw [List.cons_append, List.cons.injEq] at hsplit
    exact absurd (hsplit.2 ▸ List.mem_append_right before List.mem_cons_self) (h status)

theorem HeadFirst.writes {op : Operation} {ops : List Operation} (h : HeadFirst (op :: ops))
    (hop : op.event? ≠ none) :
    (ops.filterMap event?).filterMap StatusEvent.given? = [] := by
  rw [List.filterMap_filterMap, List.filterMap_eq_nil_iff]
  intro op' hop'
  cases op' with
  | sendHead status =>
    obtain ⟨before, after, rfl⟩ := List.append_of_mem hop'
    exact absurd (h (op :: before) status after rfl op List.mem_cons_self) hop
  | headers | edit | write | flush | close | handOver => rfl

theorem HeadFirst.last?_eq {ops : List Operation} (h : HeadFirst ops) :
    StatusEvent.last? (ops.filterMap event?) = (ops.filterMap event?).head?.map (·.status) := by
  induction ops with
  | nil => rfl
  | cons op ops ih =>
    cases he : op.event? with
    | none =>
      rw [List.filterMap_cons_none he]
      exact ih h.of_cons
    | some e =>
      have hwrites := h.writes (by simp [he])
      rw [List.filterMap_cons_some he, StatusEvent.last?, List.filterMap_cons, hwrites,
        List.head?_cons, Option.map_some, StatusEvent.status]
      cases e.given? <;> rfl

theorem status_head? (h : Http.Headers) (ops : List Operation) :
    (head? h ops).map (·.status) = (ops.filterMap event?).head?.map (·.status) := by
  induction ops generalizing h with
  | nil => rfl
  | cons op ops ih =>
    cases op with
    | edit change => exact ih (change h)
    | sendHead | write => rfl
    | headers | flush | close | handOver => exact ih h

end Operation

namespace Streamed

def Happening.outcome? : Happening → Option Outcome
  | operated op a => some ⟨op, a, none⟩
  | released _ | head _ | body _ | dropped => none

def outcomes (hs : List Happening) : List Outcome := hs.filterMap Happening.outcome?

def noted (hs : List Happening) : Tally := (outcomes hs).foldl Tally.after {}

theorem outcomes_append (hs hs' : List Happening) :
    outcomes (hs ++ hs') = outcomes hs ++ outcomes hs' :=
  List.filterMap_append

theorem noted_append (hs hs' : List Happening) :
    noted (hs ++ hs') = (outcomes hs').foldl Tally.after (noted hs) := by
  rw [noted, outcomes_append, List.foldl_append]
  rfl

theorem outcomes_operations (ops : List Operation) (s : Streamed) :
    outcomes (run (ops.map .operate) s).1 = Operation.outcomes ops s := by
  induction ops generalizing s with
  | nil => rfl
  | cons op ops ih => exact congrArg (op.outcome s :: ·) (ih _)

theorem events_outcomes (hs : List Happening) :
    Outcome.events (outcomes hs) = (performed hs).filterMap Operation.event? := by
  rw [Outcome.events, outcomes, performed, List.filterMap_filterMap, List.filterMap_filterMap]
  congr 1
  funext h
  cases h <;> rfl

theorem counted_on (e : Step) (s : Streamed) (t : Tally) :
    let h := (on e s).1
    ((outcomes [h]).foldl Tally.after t).sent =
        t.sent + UInt64.ofNat (accepted [h]).flatten.length ∧
      ((outcomes [h]).foldl Tally.after t).produced =
        t.produced + UInt64.ofNat (accepted [h]).flatten.length := by
  intro h
  have hquiet : t.sent = t.sent + UInt64.ofNat 0 ∧ t.produced = t.produced + UInt64.ofNat 0 :=
    ⟨(UInt64.add_zero _).symm, (UInt64.add_zero _).symm⟩
  cases e with
  | operate op =>
    cases op with
    | write bs =>
      cases bs with
      | nil => exact ⟨rfl, rfl⟩
      | cons b bs =>
        have hanswer : h =
            .operated (.write (b :: bs)) (.wrote (Transport.write (b :: bs) s).1) := rfl
        rw [hanswer, write_cons]
        split
        · exact hquiet
        · split
          · exact hquiet
          · simp only [accepted, List.filterMap_cons, Happening.mark, List.filterMap_nil,
              List.flatten_cons, List.flatten_nil, List.append_nil, List.length_cons]
            exact ⟨rfl, rfl⟩
    | headers | edit | sendHead | flush | close | handOver => exact hquiet
  | release | dropReader => exact hquiet
  | takeHead =>
    have hhead : h = .head s.takeHead.1 := rfl
    rw [hhead]
    cases s.takeHead.1 <;> exact hquiet
  | takeBody =>
    have hbody : h = .body s.takeBody.1 := rfl
    rw [hbody]
    cases s.takeBody.1 <;> exact hquiet

theorem counted_run (es : List Step) (s : Streamed) (t : Tally) :
    let hs := (run es s).1
    ((outcomes hs).foldl Tally.after t).sent = t.sent + UInt64.ofNat (accepted hs).flatten.length ∧
      ((outcomes hs).foldl Tally.after t).produced =
        t.produced + UInt64.ofNat (accepted hs).flatten.length := by
  induction es generalizing s t with
  | nil => exact ⟨(UInt64.add_zero _).symm, (UInt64.add_zero _).symm⟩
  | cons e es ih =>
    intro hs
    have hsplit : hs = [(on e s).1] ++ (run es (on e s).2).1 := rfl
    obtain ⟨hsent, hproduced⟩ := counted_on e s t
    obtain ⟨hsent', hproduced'⟩ := ih (on e s).2 ((outcomes [(on e s).1]).foldl Tally.after t)
    have haccepted : accepted hs = accepted [(on e s).1] ++ accepted (run es (on e s).2).1 := by
      rw [hsplit]
      exact List.filterMap_append
    rw [haccepted, hsplit, outcomes_append, List.foldl_append, hsent', hproduced', hsent, hproduced,
      List.flatten_append, List.length_append, UInt64.ofNat_add, UInt64.add_assoc, UInt64.add_assoc]
    exact ⟨rfl, rfl⟩

theorem head_of_release (s : Streamed) : ∃ head, (Transport.release false s).head = some head := by
  cases hhead : s.head with
  | none => exact ⟨⟨.ok, s.headers⟩, by simp [Transport.release, finish, commit, hhead]⟩
  | some head => exact ⟨head, by simp [Transport.release, finish, hhead]⟩

theorem status_noted (hs : List Happening) :
    (noted hs).status = StatusEvent.last? ((performed hs).filterMap Operation.event?) := by
  rw [← events_outcomes]
  have hstart : ({} : Tally).status = StatusEvent.last? [] := rfl
  exact Tally.last_outcomes hstart (outcomes hs)

theorem status_noted_of_headFirst {hs : List Happening} (h : Operation.HeadFirst (performed hs)) :
    (noted hs).status = (settled hs).map (·.status) := by
  rw [status_noted, h.last?_eq, settled, Operation.status_head?]

theorem accepted_of_unsettled {hs : List Happening} (h : settled hs = none) : accepted hs = [] := by
  have hevents : (performed hs).filterMap Operation.event? = [] := by
    rw [← List.head?_eq_none_iff, ← Option.map_eq_none_iff, ← Operation.status_head? {},
      Option.map_eq_none_iff]
    exact h
  rw [performed, List.filterMap_filterMap, List.filterMap_eq_nil_iff] at hevents
  refine List.filterMap_eq_nil_iff.2 fun happening hmem => ?_
  have hquiet := hevents happening hmem
  unfold Happening.mark
  split
  next => cases hquiet
  all_goals rfl

theorem reading_of_finished {s : Streamed} (hreader : s.reader = .awaiting ∨ s.reader = .reading)
    (h : s.takeBody.1 = .finished) : s.reader = .reading ∧ s.queue = [] := by
  unfold takeBody at h
  split at h
  · cases h
  · cases h
  next hr hq => exact ⟨hr, hq⟩
  next hr => rcases hreader with hreader | hreader <;> cases hr.symm.trans hreader
  · cases h
  · cases h

theorem received_of_finished (q : Http.Request) (es : List Step)
    (hholds : (run es (forRequest q)).1.any (·.mark.letsGo) = false)
    (h : (run es (forRequest q)).2.takeBody.1 = .finished) :
    received (run es (forRequest q)).1 = accepted (run es (forRequest q)).1 ∧
      (run es (forRequest q)).2.reader = .reading := by
  have hsound := sound_run q es
  have hbooks := hsound.books hholds
  obtain ⟨hreading, hqueue⟩ := reading_of_finished (hsound.reader.1 hholds) h
  rw [Channel.unread, channel, hqueue, List.filterMap_nil, List.append_nil] at hbooks
  exact ⟨hbooks, hreading⟩

end Streamed

end AccessTrail
