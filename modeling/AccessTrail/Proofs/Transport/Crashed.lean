import AccessTrail.Proofs.Transport.Streamed

/-!
What becomes of a streamed body when its writer crashes. A client that reads on is told all that was
taken from the writer, in order. It is told of the crash only if the queue had room for that when it
happened; else the body ends as if it were whole.
-/

namespace AccessTrail

def Part.answer : Part → Streamed.BodyAnswer
  | chunk bs => .chunk bs
  | broken => .broken Streamed.crashReason

namespace Streamed

def Happening.answer? : Happening → Option BodyAnswer
  | body .waiting | body .nothing => none
  | body answer => some answer
  | _ => none

def answers (hs : List Happening) : List BodyAnswer := hs.filterMap Happening.answer?

theorem answers_append (hs hs' : List Happening) :
    answers (hs ++ hs') = answers hs ++ answers hs' :=
  List.filterMap_append

def lastWord (hs : List Happening) : BodyAnswer :=
  if (accepted hs).length ≤ (received hs).length + capacity then .broken crashReason else .finished

def Step.isReading : Step → Bool
  | takeHead | takeBody => true
  | _ => false

def pending (s : Streamed) : List BodyAnswer := s.queue.map Part.answer

structure Left (s : Streamed) : Prop where
  released : s.released = true
  head : ∃ h, s.head = some h ∧ h.status ≠ .switchingProtocols
  reader : s.reader = .awaiting ∨ s.reader = .reading

namespace Left

variable {s : Streamed}

theorem takeHead (hs : Left s) : s.takeHead.2 = { s with reader := .reading } := by
  obtain ⟨h, hhead, hstatus⟩ := hs.head
  rcases hs.reader with hr | hr
  · rw [Streamed.takeHead, hr, hhead]
    simp [hstatus]
  · cases s
    cases hr
    rfl

theorem takeBody_nil (hs : Left s) (hr : s.reader = .reading) (hq : s.queue = []) :
    s.takeBody = (.finished, s) := by
  rw [Streamed.takeBody, hr, hq, hs.released, Bool.or_true]
  rfl

theorem takeBody_cons {p : Part} {rest : List Part} (hr : s.reader = .reading)
    (hq : s.queue = p :: rest) : s.takeBody = (p.answer, { s with queue := rest }) := by
  rw [Streamed.takeBody, hr, hq]
  cases p <;> rfl

theorem on (hs : Left s) {e : Step} (he : e.isReading) :
    Left (on e s).2 ∧ ∃ j,
      answers [(Streamed.on e s).1] ++ (Streamed.on e s).2.pending =
        s.pending ++ List.replicate j .finished := by
  cases e with
  | operate | release | dropReader => cases he
  | takeHead =>
    change Left s.takeHead.2 ∧ ∃ j, s.takeHead.2.pending = _
    rw [hs.takeHead]
    exact ⟨⟨hs.released, hs.head, .inr rfl⟩, 0, (List.append_nil _).symm⟩
  | takeBody =>
    change Left s.takeBody.2 ∧ ∃ j, answers [.body s.takeBody.1] ++ s.takeBody.2.pending = _
    rcases hs.reader with hr | hr
    · have hnothing : s.takeBody = (.nothing, s) := by rw [Streamed.takeBody, hr]
      rw [hnothing]
      exact ⟨hs, 0, (List.append_nil _).symm⟩
    · cases hq : s.queue with
      | nil =>
        rw [hs.takeBody_nil hr hq, pending, hq]
        exact ⟨hs, 1, rfl⟩
      | cons p rest =>
        rw [takeBody_cons hr hq, pending, pending, hq]
        refine ⟨⟨hs.released, hs.head, hs.reader⟩, 0, ?_⟩
        cases p <;> exact (List.append_nil _).symm

theorem run (hs : Left s) {es : List Step} (hes : ∀ e ∈ es, e.isReading) :
    Left (run es s).2 ∧ ∃ j,
      answers (Streamed.run es s).1 ++ (Streamed.run es s).2.pending =
        s.pending ++ List.replicate j .finished := by
  induction es generalizing s with
  | nil => exact ⟨hs, 0, (List.append_nil _).symm⟩
  | cons e es ih =>
    rw [List.forall_mem_cons] at hes
    obtain ⟨hon, i, hi⟩ := hs.on hes.1
    obtain ⟨hrun, j, hj⟩ := ih hon hes.2
    refine ⟨hrun, i + j, ?_⟩
    calc answers (Streamed.run (e :: es) s).1 ++ (Streamed.run (e :: es) s).2.pending
        = answers [(Streamed.on e s).1] ++ (answers (Streamed.run es (Streamed.on e s).2).1 ++
            (Streamed.run es (Streamed.on e s).2).2.pending) := by
          rw [← List.append_assoc, ← answers_append]
          rfl
      _ = (s.pending ++ List.replicate i .finished) ++ List.replicate j .finished := by
          rw [hj, ← List.append_assoc, hi]
      _ = s.pending ++ List.replicate (i + j) .finished := by
          rw [List.append_assoc, List.replicate_append_replicate]

theorem length_answers (hs : Left s) (hr : s.reader = .reading) (n : Nat) :
    (answers (Streamed.run (List.replicate n .takeBody) s).1).length = n := by
  induction n generalizing s with
  | zero => rfl
  | succ n ih =>
    have hsplit : answers (Streamed.run (List.replicate (n + 1) .takeBody) s).1 =
        answers [.body s.takeBody.1] ++
          answers (Streamed.run (List.replicate n .takeBody) s.takeBody.2).1 := by
      rw [← answers_append]
      rfl
    have hleft : Left s.takeBody.2 := (hs.on (e := .takeBody) rfl).1
    rw [hsplit, List.length_append]
    cases hq : s.queue with
    | nil =>
      rw [hs.takeBody_nil hr hq] at hleft ⊢
      rw [ih hleft hr]
      exact Nat.add_comm 1 n
    | cons p rest =>
      rw [takeBody_cons hr hq] at hleft ⊢
      rw [ih hleft hr]
      cases p <;> exact Nat.add_comm 1 n

theorem finished_run (hs : Left s) {after : List Step} (hafter : ∀ e ∈ after, e.isReading) {n : Nat}
    (hn : s.queue.length < n) :
    s.pending ++ [.finished] <+:
      answers (Streamed.run (after ++ .takeHead :: List.replicate n .takeBody) s).1 := by
  have hreads : ∀ e ∈ after ++ .takeHead :: List.replicate n .takeBody, e.isReading := by
    intro e he
    rw [List.mem_append, List.mem_cons, List.mem_replicate] at he
    rcases he with he | rfl | ⟨_, rfl⟩
    · exact hafter e he
    · rfl
    · rfl
  have hlong : n ≤
      (answers (Streamed.run (after ++ .takeHead :: List.replicate n .takeBody) s).1).length := by
    have hleft : Left (Streamed.on .takeHead (Streamed.run after s).2).2 :=
      ((hs.run hafter).1.on (e := .takeHead) rfl).1
    have hr : (Streamed.run after s).2.takeHead.2.reader = .reading := by
      rw [(hs.run hafter).1.takeHead]
    rw [run_append, answers_append, Streamed.run, List.length_append]
    calc n = _ := (hleft.length_answers hr n).symm
      _ ≤ _ := Nat.le_add_left _ _
  obtain ⟨-, j, hj⟩ := hs.run hreads
  have hpending : s.pending.length = s.queue.length := List.length_map _
  have hj' := congrArg List.length hj
  rw [List.length_append, List.length_append, List.length_replicate] at hj'
  obtain ⟨i, rfl⟩ : ∃ i, j = i + 1 := Nat.exists_eq_add_one.2 (by omega)
  have htold : s.pending ++ [.finished] <+: s.pending ++ List.replicate (i + 1) .finished :=
    ⟨List.replicate i .finished, by rw [List.append_assoc]; rfl⟩
  refine List.prefix_of_prefix_length_le htold ⟨_, hj⟩ ?_
  rw [List.length_append, hpending]
  exact hn.trans_le hlong

end Left

theorem kept_commit (status : Http.Status) (s : Streamed) :
    (s.commit status).released = s.released ∧ (s.commit status).reader = s.reader := by
  unfold commit
  split <;> exact ⟨rfl, rfl⟩

theorem reader_release (crashed : Bool) (s : Streamed) :
    (Transport.release crashed s).reader = s.reader := by
  change (s.finish crashed).reader = s.reader
  unfold finish
  split
  · exact (kept_commit .ok s).2
  · split <;> rfl
  · rfl
  · rfl

theorem kept_operate (op : Operation) (s : Streamed) :
    (op.on s).2.released = s.released ∧ (op.on s).2.reader = s.reader := by
  cases op with
  | headers | edit | flush | close => exact ⟨rfl, rfl⟩
  | sendHead status => exact kept_commit status s
  | write bs =>
    cases bs with
    | nil => exact kept_commit .ok s
    | cons b bs =>
      rw [Operation.on, write_cons]
      split
      · exact kept_commit .ok s
      · split <;> exact kept_commit .ok s
  | handOver =>
    obtain ⟨_, hs⟩ := handOver_on s
    rw [hs]
    exact ⟨rfl, rfl⟩

theorem released_on {e : Step} (he : ∀ crashed, e ≠ .release crashed) (s : Streamed) :
    (on e s).2.released = s.released := by
  cases e with
  | operate op => exact (kept_operate op s).1
  | release crashed => exact absurd rfl (he crashed)
  | takeHead =>
    simp only [on, takeHead]
    split
    · split <;> rfl
    · split <;> rfl
    · rfl
  | takeBody =>
    simp only [on, takeBody]
    split <;> rfl
  | dropReader => rfl

theorem released_run {es : List Step} (hes : ∀ crashed, .release crashed ∉ es) (s : Streamed) :
    (run es s).2.released = s.released := by
  induction es generalizing s with
  | nil => rfl
  | cons e es ih =>
    have hon : (on e s).2.released = s.released :=
      released_on (fun crashed h => hes crashed (h ▸ List.mem_cons_self)) s
    exact (ih (fun crashed h => hes crashed (List.mem_cons_of_mem e h)) _).trans hon

structure Underway (s : Streamed) : Prop where
  released : s.released = false
  closed : s.closed = false
  reader : s.reader = .awaiting ∨ s.reader = .reading
  whole : .broken ∉ s.queue

theorem underway_run (q : Http.Request) {es : List Step} (hes : ∀ crashed, .release crashed ∉ es)
    (hopen : (run es (forRequest q)).2.closed = false) : Underway (run es (forRequest q)).2 where
  released := released_run hes _
  closed := hopen
  reader := by
    have hsound := sound_run q es
    have hends : (run es (forRequest q)).1.any Happening.ends = false :=
      hsound.closed.symm.trans hopen
    refine hsound.reader.1 (List.any_eq_false.2 fun h hh hletsGo => ?_)
    exact List.any_eq_false.1 hends h hh (by rw [Happening.ends, hletsGo, Bool.or_true])
  whole := (sound_run q es).whole (crash_run (hes true) _)

theorem Happening.received_of_answer {h : Happening} (hh : h.answer? = none) :
    h.mark.received = none := by
  cases h with
  | operated op a =>
    unfold mark
    split <;> trivial
  | released | dropped => rfl
  | head a => cases a <;> rfl
  | body a =>
    cases a with
    | chunk => cases hh
    | _ => rfl

theorem Underway.answers_on {s : Streamed} (hs : Underway s) (e : Step) :
    answers [(on e s).1] = (received [(on e s).1]).map .chunk := by
  have hquiet : (on e s).1.answer? = none →
      answers [(on e s).1] = (received [(on e s).1]).map .chunk := by
    intro h
    simp [answers, received, h, Happening.received_of_answer h]
  cases e with
  | takeBody =>
    simp only [on, takeBody] at hquiet ⊢
    split
    · rfl
    · next hq => exact absurd (hq ▸ List.mem_cons_self) hs.whole
    · rw [hs.closed, hs.released]
      rfl
    · next hr => rcases hs.reader with h | h <;> cases hr.symm.trans h
    · rfl
    · rfl
  | operate | release | takeHead | dropReader => exact hquiet rfl

theorem answers_run (q : Http.Request) {es : List Step} (hes : ∀ crashed, .release crashed ∉ es)
    (hopen : (run es (forRequest q)).2.closed = false) :
    answers (run es (forRequest q)).1 = (received (run es (forRequest q)).1).map .chunk := by
  induction es using List.reverseRecOn with
  | nil => rfl
  | append_singleton es e ih =>
    have hes' : ∀ crashed, .release crashed ∉ es := fun crashed h =>
      hes crashed (List.mem_append_left _ h)
    rw [run_append] at hopen
    have hopen' : (run es (forRequest q)).2.closed = false :=
      Bool.eq_false_of_not_eq_true fun h => by
        have hclosed := (effect_on e _).closed_kept h
        exact Bool.false_ne_true (hopen.symm.trans hclosed)
    have hlast := (underway_run q hes' hopen').answers_on e
    rw [run_append, answers_append, ih hes' hopen']
    simp only [received, List.filterMap_append, List.map_append]
    exact congrArg _ hlast

theorem Underway.release {s : Streamed} (hs : Underway s) {h : Http.Head} (hhead : s.head = some h)
    (hstatus : h.status ≠ .switchingProtocols) :
    Left (Transport.release true s) ∧
      (Transport.release true s).queue =
        if s.queue.length ≤ capacity then s.queue ++ [.broken] else s.queue := by
  have hfinish : s.finish true = if s.isFull then s else s.push .broken := by
    simp only [finish, hhead, hs.closed, Bool.false_or]
  change Left { s.finish true with released := true } ∧ (s.finish true).queue = _
  rw [hfinish]
  cases hfull : s.isFull with
  | true =>
    have hroom : ¬s.queue.length ≤ capacity := by simpa [isFull] using hfull
    rw [if_neg hroom]
    exact ⟨⟨rfl, ⟨h, hhead, hstatus⟩, hs.reader⟩, rfl⟩
  | false =>
    rw [if_pos (not_isFull_iff.1 hfull)]
    exact ⟨⟨rfl, ⟨h, hhead, hstatus⟩, hs.reader⟩, rfl⟩

theorem release_crashed (s : Streamed) :
    (Transport.release true s).head = s.head ∧ (Transport.release true s).closed = s.closed := by
  change (s.finish true).head = s.head ∧ (s.finish true).closed = s.closed
  unfold finish
  split
  · next hcrashed => cases hcrashed
  · split <;> exact ⟨rfl, rfl⟩
  · exact ⟨rfl, rfl⟩
  · exact ⟨rfl, rfl⟩

structure Crash (q : Http.Request) (before : List Step) : Prop where
  unreleased : ∀ crashed, .release crashed ∉ before
  head : ∃ h, (run before (forRequest q)).2.head = some h ∧ h.status ≠ .switchingProtocols
  closed : (run before (forRequest q)).2.closed = false

def Told (first all : List Happening) : Prop :=
  (accepted first).map .chunk ++ [lastWord first] <+: answers all

theorem told_concat {first all : List Happening} {crashed : Bool} :
    Told (first ++ [.released crashed]) all ↔ Told first all := by
  simp [Told, lastWord, Happening.mark]

theorem Sound.taken {hs : List Happening} {s : Streamed} (h : Sound hs s.channel)
    (hu : Underway s) :
    (accepted hs).map .chunk = (received hs).map .chunk ++ s.pending ∧
      (accepted hs).length = (received hs).length + s.queue.length := by
  have hunread : s.channel.unread.map .chunk = s.queue := Part.map_chunk hu.whole
  have hpending : s.channel.unread.map .chunk = s.pending := by
    rw [pending, ← hunread, List.map_map]
    rfl
  rw [← h.books (h.reader.2 hu.reader), List.map_append, hpending, List.length_append, ← hunread,
    List.length_map]
  exact ⟨rfl, rfl⟩

theorem told_of_left {q : Http.Request} {before after : List Step}
    (hbefore : ∀ crashed, .release crashed ∉ before)
    (hopen : (run before (forRequest q)).2.closed = false) {s : Streamed} (hs : Left s)
    {last : List Part} (hqueue : s.queue = (run before (forRequest q)).2.queue ++ last)
    (hafter : ∀ e ∈ after, e.isReading) {n : Nat} (hn : s.queue.length < n) :
    (accepted (run before (forRequest q)).1).map .chunk ++ (last.map Part.answer ++ [.finished]) <+:
      answers ((run before (forRequest q)).1 ++
        (run (after ++ .takeHead :: List.replicate n .takeBody) s).1) := by
  have hsound := sound_run q before
  have htaken := (hsound.taken (underway_run q hbefore hopen)).1
  have htold := hs.finished_run hafter hn
  have hpending : s.pending = (run before (forRequest q)).2.pending ++ last.map Part.answer := by
    rw [pending, hqueue, List.map_append, pending]
  rw [answers_append, answers_run q hbefore hopen, htaken, List.append_assoc]
  refine (List.prefix_append_right_inj _).2 ?_
  rwa [hpending, List.append_assoc] at htold

theorem Crash.told {q : Http.Request} {before after : List Step} (hc : Crash q before)
    (hafter : ∀ e ∈ after, e.isReading) {n : Nat} (hn : capacity + 1 < n) :
    Told (run before (forRequest q)).1
      (run (before ++ .release true :: (after ++ .takeHead :: List.replicate n .takeBody))
        (forRequest q)).1 := by
  obtain ⟨h, hhead, hstatus⟩ := hc.head
  let hs := (run before (forRequest q)).1
  let s := (run before (forRequest q)).2
  have hsound : Sound hs s.channel := sound_run q before
  have hunderway : Underway s := underway_run q hc.unreleased hc.closed
  have hbound : s.queue.length ≤ capacity + 1 := hsound.bound
  obtain ⟨hleft, hqueue⟩ := hunderway.release hhead hstatus
  have hcount := (hsound.taken hunderway).2
  rw [Told, run_append, answers_append]
  change (accepted hs).map .chunk ++ [lastWord hs] <+:
    answers hs ++ answers (run _ (Transport.release true s)).1
  rw [← answers_append, lastWord, hcount]
  by_cases hroom : s.queue.length ≤ capacity
  · rw [if_pos hroom] at hqueue
    have hlength : (Transport.release true s).queue.length < n := by
      rw [hqueue, List.length_append, List.length_singleton]
      omega
    have htold := told_of_left hc.unreleased hc.closed hleft hqueue hafter hlength
    rw [if_pos (Nat.add_le_add_left hroom _)]
    exact ((List.prefix_append_right_inj _).2 (List.prefix_append _ _)).trans htold
  · rw [if_neg hroom] at hqueue
    have hlength : (Transport.release true s).queue.length < n := by
      rw [hqueue]
      omega
    rw [if_neg (by omega)]
    exact told_of_left hc.unreleased hc.closed hleft (hqueue.trans (List.append_nil _).symm)
      hafter hlength

end Streamed

end AccessTrail
