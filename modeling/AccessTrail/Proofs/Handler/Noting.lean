import AccessTrail.Proofs.Handler.Course
import AccessTrail.Proofs.Handler.Outcome

namespace AccessTrail

variable {σ ℓ : Type}

def Rest.isReply : Rest → Bool
  | ready _ => false
  | within w _ => w.isReply

variable [Transport σ] [Log ℓ]

/-- Unless the record was made, the observer has noted the outcomes so far. -/
def Exchange.Notes {start : σ} (t : Tally) (x : Exchange (History start) ℓ) : Prop :=
  x.observer.logged = false → x.observer.Notes t

namespace Work

theorem logged_poll (w : Work) (x : Exchange σ ℓ) :
    (w.poll x).2.observer.logged = (x.observer.logged || w.entry?.isSome) := by
  cases he : w.entry? with
  | none => exact (unrecorded_poll he).logged.trans (Bool.or_false _).symm
  | some e =>
    cases w with
    | reply | yielded => cases he
    | command c =>
      rw [Option.isSome_some, Bool.or_true]
      cases hx : x.observer.logged with
      | true => exact (unrecorded_pollCommand_of_logged hx).logged.trans hx
      | false => exact (recorded_pollCommand he hx).logged

theorem isReply_of_waiting {w w' : Work} {x y : Exchange σ ℓ} {again : Bool}
    (hw : w.isReply = false) (h : w.poll x = (.waiting again w', y)) : w'.isReply = false := by
  cases w with
  | reply => cases hw
  | yielded => cases h
  | command c =>
    unfold poll pollCommand at h
    cases c with
    | fail => cases hw
    | flush => rw [attempt_waiting h]; rfl
    | close => rw [attempt_waiting h]; rfl
    | yield => cases h; rfl
    | stall => cases h; rfl
    | sendHead | edit | offers | sendRaw | headers | tally | note => cases h
    | write | record | handOver =>
      simp only at h
      split at h <;> cases h
    | writeAll bs =>
      simp only at h
      split at h <;> cases h
      rfl

theorem isReply_of_unlogged {c : Command} {x : Exchange σ ℓ}
    (h : (pollCommand c x).2.observer.logged = false) :
    (command c).isReply = false := by
  have hpoll := logged_poll (.command c) x
  rw [poll, h] at hpoll
  cases c with
  | fail => cases (Bool.or_eq_false_iff.1 hpoll.symm).2
  | _ => rfl

variable {start : σ} {t : Tally} {x : Exchange (History start) ℓ}

theorem notes_poll {w : Work} (hw : ∀ parts, w ≠ .reply parts) (hx : x.Notes t) :
    (w.poll x).2.Notes t := by
  intro hlogged
  have hstart : x.observer.Notes t := hx (by
    rw [logged_poll, Bool.or_eq_false_iff] at hlogged
    exact hlogged.1)
  cases w with
  | reply parts => exact absurd rfl (hw parts)
  | yielded => exact hstart
  | command c =>
    have hc := isReply_of_unlogged hlogged
    exact pollCommand_keeps hc (fun op o _ => Observer.notes_on op) (fun _ => id) hstart

end Work

theorem Program.isReply_of_waiting {p : Program} {woken again : Bool} {x y : Exchange σ ℓ}
    {r : Rest} (h : p.run woken x = (.waiting again r, y)) (hlogged : y.observer.logged = false) :
    r.isReply = false := by
  induction p generalizing woken x with
  | done => cases h
  | crash message => cases h
  | step c next ih =>
    rw [run] at h
    split at h
    next => exact ih _ h
    next again w z hw =>
      cases h
      have hc : (Work.command c).isReply = false := Work.isReply_of_unlogged (by rwa [hw])
      exact Work.isReply_of_waiting (w := .command c) hc hw
    next => cases h

theorem Program.notes_run {start : σ} {t : Tally} {x : Exchange (History start) ℓ} (hx : x.Notes t)
    (p : Program) (woken : Bool) : (p.run woken x).2.Notes t := by
  induction p generalizing woken x with
  | done => exact hx
  | crash message => exact hx
  | step c next ih =>
    have hc : (Work.pollCommand c x).2.Notes t := Work.notes_poll (w := .command c) nofun hx
    rw [run]
    split
    next r y hy =>
      rw [hy] at hc
      have htold : (y.tell r).Notes t := hc
      exact ih r htold _
    next hy => rwa [hy] at hc
    next hy => rwa [hy] at hc

namespace Rest

theorem isReply_of_waiting {r r' : Rest} (hr : r.isReply = false) {again : Bool}
    {x y : Exchange σ ℓ} (h : r.poll x = (.waiting again r', y))
    (hlogged : y.observer.logged = false) : r'.isReply = false := by
  cases r with
  | ready p => exact Program.isReply_of_waiting h hlogged
  | within w next =>
    rw [poll] at h
    split at h
    next => exact Program.isReply_of_waiting h hlogged
    next hw =>
      cases h
      exact Work.isReply_of_waiting hr hw
    next => cases h

theorem notes_poll {start : σ} {t : Tally} {x : Exchange (History start) ℓ} (hx : x.Notes t)
    {r : Rest} (hr : r.isReply = false) : (r.poll x).2.Notes t := by
  cases r with
  | ready p => exact p.notes_run hx false
  | within w next =>
    have hw : (w.poll x).2.Notes t := Work.notes_poll (by rintro parts rfl; cases hr) hx
    rw [poll]
    split
    next r y hy =>
      rw [hy] at hw
      have htold : (y.tell r).Notes t := hw
      exact (next r).notes_run htold _
    next hy => rwa [hy] at hw
    next hy => rwa [hy] at hw

theorem tally_poll {r : Rest} (hr : r.isReply = false) (x : Exchange σ ℓ)
    (hlogged : (r.poll x).2.observer.logged = false) :
    (r.poll x).2.observer.tally =
      (Operation.outcomes (r.operations x) x.observer.inner).foldl Tally.after
        x.observer.tally := by
  have hmap : r.poll x = (r.poll x.remember).map id (.map History.now) :=
    r.poll_map History.carries_now x.remember
  have hstart : x.remember.Notes x.observer.tally := fun _ => rfl
  rw [hmap] at hlogged ⊢
  exact notes_poll hstart hr hlogged

end Rest

end AccessTrail
