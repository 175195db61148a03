import AccessTrail.StopSignal
import Mathlib.Data.List.Basic
import Mathlib.Tactic

/-!
Waiting for the stop signal. A wait ends at the first poll after a trigger that came later than the
subscription, or after the loss of the signal. For each waiter the signal is no more than a mark
that a trigger sets, so further triggers are lost on them, and so is whatever the other waiters do.
-/

namespace AccessTrail.StopSignal

/-- Steps of those who hold the signal, and polls of one waiter. Nothing here forbids to use what
was dropped. -/
inductive Move
  | subscribe
  | trigger
  | drop
  | poll : (waiter : Nat) → Move
  deriving DecidableEq

def answer (s : StopSignal) (i : Nat) : Option WaitAnswer :=
  s.waiters[i]?.map fun w => (s.pollWaiter w).1

def pollAt (s : StopSignal) (i : Nat) : StopSignal :=
  { s with waiters := s.waiters.modify i fun w => (s.pollWaiter w).2 }

def move (s : StopSignal) : Move → StopSignal
  | .subscribe => s.subscribe.2
  | .trigger => s.trigger
  | .drop => s.drop
  | .poll i => s.pollAt i

def run (s : StopSignal) (ms : List Move) : StopSignal := ms.foldl move s

def after (ms : List Move) : StopSignal := run {} ms

def answersTo (i : Nat) : StopSignal → List Move → List WaitAnswer
  | _, [] => []
  | s, m :: ms => (if m = .poll i then (s.answer i).toList else []) ++ answersTo i (s.move m) ms

variable {s : StopSignal} {i : Nat} {ms : List Move}

theorem run_append (s : StopSignal) (ms ns : List Move) : s.run (ms ++ ns) = (s.run ms).run ns :=
  List.foldl_append

theorem after_concat (ms : List Move) (m : Move) : after (ms ++ [m]) = (after ms).move m :=
  run_append _ ms [m]

theorem answersTo_append (i : Nat) (s : StopSignal) (ms ns : List Move) :
    answersTo i s (ms ++ ns) = answersTo i s ms ++ answersTo i (s.run ms) ns := by
  induction ms generalizing s with
  | nil => rfl
  | cons m ms ih =>
    rw [List.cons_append, answersTo, answersTo, ih, List.append_assoc]
    rfl

theorem run_polls (s : StopSignal) (n : Nat) :
    s.run ((List.range n).map .poll) =
      { s with
        waiters := s.waiters.mapIdx fun i w => if i < n then (s.pollWaiter w).2 else w } := by
  induction n with
  | zero =>
    have hnone : (s.waiters.mapIdx fun i w => if i < 0 then (s.pollWaiter w).2 else w) =
        s.waiters :=
      List.ext_getElem? fun i => by simp
    rw [hnone]
    rfl
  | succ n ih =>
    rw [List.range_succ, List.map_append, run_append, ih]
    refine congrArg (fun ws => { s with waiters := ws }) (List.ext_getElem? fun i => ?_)
    simp only [List.getElem?_modify, List.getElem?_mapIdx, Option.map_eq_map, Option.map_map]
    refine congrFun (congrArg Option.map (funext fun w => ?_)) _
    rcases lt_trichotomy i n with hlt | rfl | hgt
    · simp only [Function.comp_apply, hlt.ne', hlt, hlt.trans n.lt_succ_self, if_true, if_false]
    · simp only [Function.comp_apply, lt_irrefl, i.lt_succ_self, if_true, if_false]
      rfl
    · simp only [Function.comp_apply, hgt.ne, hgt.not_gt, (Nat.succ_le_of_lt hgt).not_gt, if_false]

theorem poll_eq_run (s : StopSignal) :
    s.poll.2 = s.run ((List.range s.waiters.length).map .poll) ∧
      ∀ i, s.poll.1[i]? = s.answer i := by
  rw [run_polls]
  refine ⟨congrArg (fun ws => { s with waiters := ws }) (List.ext_getElem? fun i => ?_),
    fun i => ?_⟩
  · rw [List.getElem?_mapIdx, List.map_map, List.getElem?_map]
    refine Option.map_congr fun w hw => ?_
    obtain ⟨hi, -⟩ := List.getElem?_eq_some_iff.1 hw
    rw [if_pos hi]
    rfl
  · rw [poll, List.map_map, List.getElem?_map]
    rfl

inductive Phase
  | waiting
  | due
  | ended
  deriving DecidableEq

namespace Phase

def answer (gone : Bool) : Phase → WaitAnswer
  | waiting => if gone then .resolved else .pending
  | due => .resolved
  | ended => .done

def triggered : Phase → Phase
  | waiting => due
  | due => due
  | ended => ended

def polled (gone : Bool) : Phase → Phase
  | waiting => if gone then ended else waiting
  | due => ended
  | ended => ended

end Phase

def phase (s : StopSignal) (w : Waiter) : Phase :=
  if w.resolved then .ended else if w.next < s.sent then .due else .waiting

def isGone (s : StopSignal) : Bool := s.senders == 0

theorem receive_eq_none_iff {next : Nat} :
    s.receive next = none ↔ ¬next < s.sent ∧ s.isGone = false := by
  rw [isGone, beq_eq_false_iff_ne]
  unfold receive
  split_ifs with hmissed hsent hgone
  · exact iff_of_false nofun fun h => h.1 (Nat.lt_of_succ_lt hmissed)
  · exact iff_of_false nofun fun h => h.1 hsent
  · exact iff_of_false nofun fun h => h.2 hgone
  · exact iff_of_true rfl ⟨hsent, hgone⟩

theorem poll_phase (s : StopSignal) (w : Waiter) :
    (s.pollWaiter w).1 = (s.phase w).answer s.isGone ∧
      s.phase (s.pollWaiter w).2 = (s.phase w).polled s.isGone := by
  unfold pollWaiter
  by_cases hended : w.resolved
  · simp [phase, hended, Phase.answer, Phase.polled]
  rw [if_neg hended]
  cases hreceive : s.receive w.next with
  | none =>
    obtain ⟨hseen, hheld⟩ := receive_eq_none_iff.1 hreceive
    simp [phase, hended, hseen, hheld, Phase.answer, Phase.polled]
  | some r =>
    have hsome : ¬(¬w.next < s.sent ∧ s.isGone = false) := by
      rw [← receive_eq_none_iff, hreceive]
      nofun
    by_cases hseen : w.next < s.sent
    · simp [phase, hended, hseen, Phase.answer, Phase.polled]
    · have hgone : s.isGone = true := by simpa [hseen] using hsome
      simp [phase, hended, hseen, hgone, Phase.answer, Phase.polled]

/-- All of the state that the waiter `i` can tell. -/
structure View where
  subscribed : Nat
  gone : Bool
  phase : Option Phase

def View.answer (v : View) : Option WaitAnswer := v.phase.map (·.answer v.gone)

def View.move (i : Nat) (v : View) : Move → View
  | .subscribe =>
    { v with
      subscribed := v.subscribed + 1
      phase := if v.subscribed = i then some .waiting else v.phase }
  | .trigger => { v with phase := v.phase.map .triggered }
  | .drop => { v with gone := true }
  | .poll j => if j = i then { v with phase := v.phase.map (·.polled v.gone) } else v

def view (i : Nat) (s : StopSignal) : View where
  subscribed := s.waiters.length
  gone := s.isGone
  phase := s.waiters[i]?.map s.phase

theorem answer_eq_view (i : Nat) (s : StopSignal) : s.answer i = (s.view i).answer := by
  simp only [answer, View.answer, view, Option.map_map, Function.comp_def, poll_phase]

structure Sound (s : StopSignal) : Prop where
  listeners : s.listeners = 0
  next_le : ∀ (i : Nat) (w : Waiter), s.waiters[i]? = some w → w.next ≤ s.sent

theorem next_le_of_receive {next n : Nat} {r : Received} (h : s.receive next = some (r, n))
    (hle : next ≤ s.sent) :
    n ≤ s.sent := by
  unfold receive at h
  split_ifs at h <;> cases h <;> omega

theorem pollWaiter_next_le {w : Waiter} (h : w.next ≤ s.sent) :
    (s.pollWaiter w).2.next ≤ s.sent := by
  unfold pollWaiter
  split
  · exact h
  · split
    next n hn => exact next_le_of_receive hn h
    next => exact h

theorem Sound.move (h : s.Sound) (m : Move) : (s.move m).Sound := by
  refine ⟨by cases m <;> exact h.listeners, fun i w hw => ?_⟩
  cases m with
  | subscribe =>
    rcases List.mem_append.1 (List.mem_of_getElem? hw) with hmem | hmem
    · obtain ⟨j, hj⟩ := List.mem_iff_getElem?.1 hmem
      exact h.next_le j w hj
    · rw [List.mem_singleton.1 hmem]
      exact le_rfl
  | trigger => exact (h.next_le i w hw).trans (Nat.le_succ _)
  | drop => exact h.next_le i w hw
  | poll j =>
    simp only [StopSignal.move, pollAt, List.getElem?_modify, Option.map_eq_map,
      Option.map_eq_some_iff] at hw
    obtain ⟨w', hw', rfl⟩ := hw
    split
    · exact pollWaiter_next_le (h.next_le i w' hw')
    · exact h.next_le i w' hw'

theorem sound_after (ms : List Move) : (after ms).Sound := by
  induction ms using List.reverseRecOn with
  | nil => exact ⟨rfl, fun _ _ hw => by simp [after, run] at hw⟩
  | append_singleton ms m ih =>
    rw [after_concat]
    exact ih.move m

theorem phase_trigger {w : Waiter} (h : w.next ≤ s.sent) :
    s.trigger.phase w = (s.phase w).triggered := by
  have hdue : w.next < s.sent + 1 := Nat.lt_succ_of_le h
  simp only [phase, trigger, hdue, if_true]
  split_ifs <;> rfl

theorem isGone_drop (h : s.Sound) : s.drop.isGone = true := by
  simp [isGone, senders, drop, h.listeners]

theorem view_move (h : s.Sound) (i : Nat) (m : Move) : (s.move m).view i = (s.view i).move i m := by
  cases m with
  | subscribe =>
    let w : Waiter := { next := s.sent }
    have hnew : s.phase w = .waiting := by simp [phase, w]
    have hlength : (s.waiters ++ [w]).length = s.waiters.length + 1 := List.length_append
    have hphase : (s.waiters ++ [w])[i]?.map s.phase =
        if s.waiters.length = i then some .waiting else s.waiters[i]?.map s.phase := by
      rcases lt_trichotomy i s.waiters.length with hlt | rfl | hgt
      · rw [if_neg hlt.ne', List.getElem?_append_left hlt]
      · rw [if_pos rfl, List.getElem?_concat_length, Option.map_some, hnew]
      · rw [if_neg hgt.ne, List.getElem?_eq_none (hlength ▸ hgt), List.getElem?_eq_none hgt.le]
    exact congrArg₂ (View.mk · s.isGone ·) hlength hphase
  | trigger =>
    have hphase : s.waiters[i]?.map s.trigger.phase =
        (s.waiters[i]?.map s.phase).map .triggered := by
      rw [Option.map_map]
      exact Option.map_congr fun w hw => phase_trigger (h.next_le i w hw)
    exact congrArg (View.mk s.waiters.length s.isGone ·) hphase
  | drop => exact congrArg (View.mk s.waiters.length · (s.waiters[i]?.map s.phase)) (isGone_drop h)
  | poll j =>
    have hlength : (s.waiters.modify j fun w => (s.pollWaiter w).2).length = s.waiters.length :=
      List.length_modify ..
    have hphase : (s.waiters.modify j fun w => (s.pollWaiter w).2)[i]?.map s.phase =
        if j = i then (s.waiters[i]?.map s.phase).map (·.polled s.isGone)
          else s.waiters[i]?.map s.phase := by
      rw [List.getElem?_modify]
      split
      · simp only [Option.map_eq_map, Option.map_map, Function.comp_def, poll_phase]
      · simp only [Option.map_eq_map, Option.map_id']
    refine (congrArg₂ (View.mk · s.isGone ·) hlength hphase).trans ?_
    rw [View.move]
    split <;> rfl

theorem answersTo_congr {t : StopSignal} (hs : s.Sound) (ht : t.Sound) (h : s.view i = t.view i)
    (ms : List Move) :
    answersTo i s ms = answersTo i t ms := by
  induction ms generalizing s t with
  | nil => rfl
  | cons m ms ih =>
    have hnext : (s.move m).view i = (t.move m).view i := by rw [view_move hs, view_move ht, h]
    rw [answersTo, answersTo, answer_eq_view, answer_eq_view, h, ih (hs.move m) (ht.move m) hnext]

/-! What the steps so far say of a waiter, who is known by how many had subscribed before. -/

def Triggered (i : Nat) (ms : List Move) : Prop :=
  ∃ before later, ms = before ++ .subscribe :: later ∧ before.count .subscribe = i ∧
    .trigger ∈ later

def Ended (i : Nat) (ms : List Move) : Prop :=
  ∃ before later, ms = before ++ .poll i :: later ∧ (after before).answer i = some .resolved

theorem exists_subscription (h : i < ms.count .subscribe) :
    ∃ before later, ms = before ++ .subscribe :: later ∧ before.count .subscribe = i := by
  induction ms generalizing i with
  | nil => simp at h
  | cons m ms ih =>
    by_cases hm : m = .subscribe
    · subst hm
      cases i with
      | zero => exact ⟨[], ms, rfl, rfl⟩
      | succ i =>
        rw [List.count_cons_self] at h
        obtain ⟨before, later, rfl, hi⟩ := ih (Nat.lt_of_succ_lt_succ h)
        exact ⟨.subscribe :: before, later, rfl, by rw [List.count_cons_self, hi]⟩
    · rw [List.count_cons_of_ne hm] at h
      obtain ⟨before, later, rfl, hi⟩ := ih h
      exact ⟨m :: before, later, rfl, by rw [List.count_cons_of_ne hm, hi]⟩

namespace Triggered

theorem lt_count (h : Triggered i ms) : i < ms.count .subscribe := by
  obtain ⟨before, later, rfl, rfl, -⟩ := h
  rw [List.count_append, List.count_cons_self]
  omega

theorem append (h : Triggered i ms) (ns : List Move) : Triggered i (ms ++ ns) := by
  obtain ⟨before, later, rfl, hi, htrigger⟩ := h
  exact ⟨before, later ++ ns, by simp, hi, List.mem_append_left _ htrigger⟩

theorem concat_trigger (h : i < ms.count .subscribe) : Triggered i (ms ++ [.trigger]) := by
  obtain ⟨before, later, rfl, hi⟩ := exists_subscription h
  exact ⟨before, later ++ [.trigger], by simp, hi, by simp⟩

theorem of_concat {m : Move} (hm : m ≠ .trigger) (h : Triggered i (ms ++ [m])) :
    Triggered i ms := by
  obtain ⟨before, later, heq, hi, htrigger⟩ := h
  obtain rfl | ⟨later, m', rfl⟩ := later.eq_nil_or_concat'
  · cases htrigger
  · rw [← List.cons_append, ← List.append_assoc] at heq
    obtain ⟨rfl, hlast⟩ := List.append_inj' heq rfl
    cases hlast
    refine ⟨before, later, rfl, hi, ?_⟩
    simpa [hm.symm] using htrigger

end Triggered

theorem ended_concat_iff {m : Move} :
    Ended i (ms ++ [m]) ↔ Ended i ms ∨ m = .poll i ∧ (after ms).answer i = some .resolved := by
  constructor
  · rintro ⟨before, later, heq, hanswer⟩
    obtain rfl | ⟨later, m', rfl⟩ := later.eq_nil_or_concat'
    · obtain ⟨rfl, hlast⟩ := List.append_inj' heq rfl
      cases hlast
      exact .inr ⟨rfl, hanswer⟩
    · rw [← List.cons_append, ← List.append_assoc] at heq
      obtain ⟨rfl, -⟩ := List.append_inj' heq rfl
      exact .inl ⟨before, later, rfl, hanswer⟩
  · rintro (⟨before, later, rfl, hanswer⟩ | ⟨rfl, hanswer⟩)
    · exact ⟨before, later ++ [m], by simp, hanswer⟩
    · exact ⟨ms, [], rfl, hanswer⟩

inductive Standing (i : Nat) (ms : List Move) : Option Phase → Prop
  | absent : ms.count .subscribe ≤ i → ¬Ended i ms → Standing i ms none
  | waiting : i < ms.count .subscribe → ¬Triggered i ms → ¬Ended i ms →
      Standing i ms (some .waiting)
  | due : Triggered i ms → ¬Ended i ms → Standing i ms (some .due)
  | ended : i < ms.count .subscribe → Ended i ms → Standing i ms (some .ended)

namespace Standing

variable {p : Option Phase}

theorem concat_trigger (h : Standing i ms p) :
    Standing i (ms ++ [.trigger]) (p.map .triggered) := by
  have hcount : (ms ++ [Move.trigger]).count .subscribe = ms.count .subscribe := by simp
  have hended : Ended i (ms ++ [.trigger]) ↔ Ended i ms := by simp [ended_concat_iff]
  cases h with
  | absent hle hopen => exact .absent (hcount ▸ hle) (mt hended.1 hopen)
  | waiting hlt _ hopen => exact .due (.concat_trigger hlt) (mt hended.1 hopen)
  | due htriggered hopen => exact .due (htriggered.append _) (mt hended.1 hopen)
  | ended hlt hover => exact .ended (hcount ▸ hlt) (hended.2 hover)

theorem concat_subscribe (h : Standing i ms p) :
    Standing i (ms ++ [.subscribe]) (if ms.count .subscribe = i then some .waiting else p) := by
  have hcount : (ms ++ [Move.subscribe]).count .subscribe = ms.count .subscribe + 1 := by simp
  have hended : Ended i (ms ++ [.subscribe]) ↔ Ended i ms := by simp [ended_concat_iff]
  cases h with
  | absent hle hopen =>
    split
    next heq =>
      have hnone : ¬Triggered i ms :=
        fun htriggered => absurd htriggered.lt_count (heq ▸ lt_irrefl _)
      exact .waiting (by omega) (mt (.of_concat (by decide)) hnone) (mt hended.1 hopen)
    next hne => exact .absent (by omega) (mt hended.1 hopen)
  | waiting hlt hnone hopen =>
    rw [if_neg hlt.ne']
    exact .waiting (by omega) (mt (.of_concat (by decide)) hnone) (mt hended.1 hopen)
  | due htriggered hopen =>
    rw [if_neg htriggered.lt_count.ne']
    exact .due (htriggered.append _) (mt hended.1 hopen)
  | ended hlt hover =>
    rw [if_neg hlt.ne']
    exact .ended (by omega) (hended.2 hover)

theorem concat (h : Standing i ms p) {m : Move} (hs : m ≠ .subscribe) (ht : m ≠ .trigger)
    (hp : m ≠ .poll i) :
    Standing i (ms ++ [m]) p := by
  have hcount : (ms ++ [m]).count .subscribe = ms.count .subscribe := by simp [hs]
  have hended : Ended i (ms ++ [m]) ↔ Ended i ms := by simp [ended_concat_iff, hp]
  cases h with
  | absent hle hopen => exact .absent (hcount ▸ hle) (mt hended.1 hopen)
  | waiting hlt hnone hopen =>
    exact .waiting (hcount ▸ hlt) (mt (.of_concat ht) hnone) (mt hended.1 hopen)
  | due htriggered hopen => exact .due (htriggered.append _) (mt hended.1 hopen)
  | ended hlt hover => exact .ended (hcount ▸ hlt) (hended.2 hover)

theorem concat_poll (h : Standing i ms ((after ms).view i).phase) :
    Standing i (ms ++ [.poll i]) (((after ms).view i).phase.map (·.polled (after ms).isGone)) := by
  have hcount : (ms ++ [Move.poll i]).count .subscribe = ms.count .subscribe := by simp
  have hended : Ended i (ms ++ [.poll i]) ↔
      Ended i ms ∨ ((after ms).view i).answer = some .resolved := by
    simp [ended_concat_iff, answer_eq_view]
  rw [View.answer] at hended
  have hgone : ((after ms).view i).gone = (after ms).isGone := rfl
  rw [hgone] at hended
  generalize ((after ms).view i).phase = p at *
  cases h with
  | absent hle hopen => exact .absent (hcount ▸ hle) (by simpa [hended] using hopen)
  | waiting hlt hnone hopen =>
    cases hg : (after ms).isGone with
    | true => exact .ended (hcount ▸ hlt) (hended.2 (.inr (by simp [Phase.answer, hg])))
    | false =>
      refine .waiting (hcount ▸ hlt) (mt (.of_concat nofun) hnone) ?_
      simpa [hended, hg, Phase.answer] using hopen
  | due htriggered _ => exact .ended (hcount ▸ htriggered.lt_count) (hended.2 (.inr rfl))
  | ended hlt hover => exact .ended (hcount ▸ hlt) (hended.2 (.inl hover))

end Standing

theorem length_waiters (ms : List Move) : (after ms).waiters.length = ms.count .subscribe := by
  induction ms using List.reverseRecOn with
  | nil => rfl
  | append_singleton ms m ih =>
    rw [after_concat, List.count_append, ← ih]
    cases m with
    | subscribe => exact List.length_append
    | trigger | drop => rfl
    | poll i => exact List.length_modify ..

theorem isGone_iff (ms : List Move) : (after ms).isGone = true ↔ .drop ∈ ms := by
  induction ms using List.reverseRecOn with
  | nil => decide
  | append_singleton ms m ih =>
    rw [after_concat, List.mem_append, ← ih]
    cases m with
    | drop => simp [move, isGone_drop (sound_after ms)]
    | subscribe | trigger | poll => exact (or_iff_left (by simp)).symm

theorem standing_after (i : Nat) (ms : List Move) : Standing i ms ((after ms).view i).phase := by
  induction ms using List.reverseRecOn with
  | nil => exact .absent (Nat.zero_le i) (by simp [Ended])
  | append_singleton ms m ih =>
    rw [after_concat, view_move (sound_after ms)]
    cases m with
    | subscribe =>
      have hstanding := ih.concat_subscribe
      rwa [← length_waiters] at hstanding
    | trigger => exact ih.concat_trigger
    | drop => exact ih.concat nofun nofun nofun
    | poll j =>
      rw [View.move]
      split
      next heq =>
        subst heq
        exact ih.concat_poll
      next hne => exact ih.concat nofun nofun (by simpa using hne)

def Woken (i : Nat) (ms : List Move) : Prop := Triggered i ms ∨ (after ms).senders = 0

theorem woken_iff : Woken i ms ↔ Triggered i ms ∨ (after ms).isGone = true := by
  rw [Woken, isGone, beq_iff_eq]

theorem answer_after (h : i < ms.count .subscribe) :
    ((after ms).answer i = some .done ↔ Ended i ms) ∧
      ((after ms).answer i = some .resolved ↔ ¬Ended i ms ∧ Woken i ms) ∧
      ((after ms).answer i = some .pending ↔ ¬Ended i ms ∧ ¬Woken i ms) := by
  have hstanding := standing_after i ms
  have hgone : ((after ms).view i).gone = (after ms).isGone := rfl
  rw [answer_eq_view, View.answer, hgone, woken_iff]
  generalize ((after ms).view i).phase = p at hstanding
  cases hstanding with
  | absent hle => exact absurd h hle.not_gt
  | waiting _ hnone hopen => cases (after ms).isGone <;> simp [Phase.answer, hnone, hopen]
  | due htriggered hopen => simp [Phase.answer, htriggered, hopen]
  | ended _ hover => simp [Phase.answer, hover]

theorem view_trigger (h : ms.count .subscribe ≤ i ∨ Triggered i ms ∨ Ended i ms) :
    (after ms).trigger.view i = (after ms).view i := by
  have hmove : (after ms).trigger.view i = ((after ms).view i).move i .trigger :=
    view_move (sound_after ms) i .trigger
  have hphase : ((after ms).view i).phase.map .triggered = ((after ms).view i).phase := by
    have hstanding := standing_after i ms
    generalize ((after ms).view i).phase = p at hstanding
    cases hstanding with
    | absent => rfl
    | waiting hlt hnone hopen => exact absurd h (by simp [hlt.not_ge, hnone, hopen])
    | due => rfl
    | ended => rfl
  rw [hmove, View.move, hphase]

theorem view_poll_of_ne {j : Nat} (h : j ≠ i) (ms : List Move) :
    ((after ms).pollAt j).view i = (after ms).view i := by
  have hmove : ((after ms).pollAt j).view i = ((after ms).view i).move i (.poll j) :=
    view_move (sound_after ms) i (.poll j)
  rw [hmove, View.move, if_neg h]

theorem answersTo_skip {m : Move} (hm : m ≠ .poll i)
    (h : ((after ms).move m).view i = (after ms).view i) (later : List Move) :
    answersTo i {} (ms ++ m :: later) = answersTo i {} (ms ++ later) := by
  have hrest : answersTo i ((after ms).move m) later = answersTo i (after ms) later :=
    answersTo_congr ((sound_after ms).move m) (sound_after ms) h later
  rw [answersTo_append, answersTo_append, answersTo, if_neg hm, List.nil_append]
  exact congrArg (answersTo i {} ms ++ ·) hrest

/-- A waiter who is polled is told that the wait has ended as soon as a trigger has come since they
subscribed, or nobody is left who could trigger, and not before; they are told once. A trigger makes
no difference to waiters who have been triggered before, have been told, or subscribe later, and
polls of the others make none to anybody. -/
theorem resolved_iff_woken :
    (∀ ms i, i < ms.count .subscribe →
      ((after ms).answer i = some .done ↔ Ended i ms) ∧
      ((after ms).answer i = some .resolved ↔ ¬Ended i ms ∧ Woken i ms) ∧
      ((after ms).answer i = some .pending ↔ ¬Ended i ms ∧ ¬Woken i ms)) ∧
    (∀ ms, (after ms).senders = 0 ↔ .drop ∈ ms) ∧
    (∀ ms later i, ms.count .subscribe ≤ i ∨ Triggered i ms ∨ Ended i ms →
      answersTo i {} (ms ++ .trigger :: later) = answersTo i {} (ms ++ later)) ∧
    (∀ ms later i j, j ≠ i → answersTo i {} (ms ++ .poll j :: later) =
      answersTo i {} (ms ++ later)) ∧
    ∀ s : StopSignal,
      s.poll.2 = s.run ((List.range s.waiters.length).map .poll) ∧
      ∀ i, s.poll.1[i]? = s.answer i := by
  refine ⟨fun ms i => answer_after, fun ms => ?_, fun ms later i h => ?_, fun ms later i j h => ?_,
    poll_eq_run⟩
  · rw [← isGone_iff, isGone, beq_iff_eq]
  · exact answersTo_skip (m := .trigger) nofun (view_trigger h) later
  · exact answersTo_skip (m := .poll j) (by simpa using h) (view_poll_of_ne h ms) later

theorem resolved_iff_woken_of_latecomer :
    let ms : List Move := [.subscribe, .trigger, .trigger, .poll 0, .subscribe]
    (1 < ms.count .subscribe ∧ Ended 0 ms ∧ ¬Ended 1 ms ∧ ¬Woken 1 ms) ∧
      answersTo 0 {} (ms ++ .trigger :: [.poll 0]) = answersTo 0 {} (ms ++ [.poll 0]) ∧
      answersTo 1 {} (ms ++ .poll 0 :: [.drop, .poll 1]) =
        answersTo 1 {} (ms ++ [.drop, .poll 1]) := by
  intro ms
  obtain ⟨hanswers, -, htrigger, hpoll, -⟩ := resolved_iff_woken
  have hended : Ended 0 ms := (hanswers ms 0 (by decide)).1.1 (by decide)
  have hopen : ¬Ended 1 ms ∧ ¬Woken 1 ms := (hanswers ms 1 (by decide)).2.2.1 (by decide)
  exact ⟨⟨by decide, hended, hopen⟩, htrigger ms _ 0 (.inr (.inr hended)),
    hpoll ms _ 1 0 (by decide)⟩

end AccessTrail.StopSignal
