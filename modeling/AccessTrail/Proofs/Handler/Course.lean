import AccessTrail.Proofs.Handler.Run

/-!
Courses: a handler polled at once and then after each of its waits, whatever happens to the
transport, the log and the clock meanwhile. The commands it gives in the course are read off the
replies.
-/

namespace AccessTrail

variable {σ ℓ : Type}

/-- What happens while a handler waits. The handler may give up what it waits for, and go on
otherwise. -/
structure Interlude (σ ℓ : Type) where
  inner : σ → σ := id
  log : ℓ → ℓ := id
  now : Clock → Clock := id
  instead : Option Program := none

namespace Interlude

def pass (i : Interlude σ ℓ) (x : Exchange σ ℓ) : Exchange σ ℓ :=
  { x.setInner (i.inner x.observer.inner) with log := i.log x.log, now := i.now x.now }

def journaled (i : Interlude σ ℓ) : Interlude σ (Journal ℓ) := { i with log := Journal.lift i.log }

theorem accounted_pass {v : Http.Visit} {e? : Option Entry} {x : Exchange σ (Journal ℓ)}
    (h : Accounted v e? x) (i : Interlude σ ℓ) : Accounted v e? (i.journaled.pass x) :=
  ⟨h.visit, h.logged, h.asked⟩

end Interlude

def Program.given : Program → List Reply → List Command
  | .step c _, [] => [c]
  | .step c next, r :: rs => c :: (next r).given rs
  | .done, _ | .crash _, _ => []

namespace Rest

def given : Rest → List Reply → List Command
  | .ready p, rs => p.given rs
  | .within _ next, r :: rs => (next r).given rs
  | .within .., [] => []

def Silent : Rest → Prop
  | .ready _ => True
  | .within w _ => w.entry? = none

def after (i : Interlude σ ℓ) (r : Rest) : Rest := (i.instead.map .ready).getD r

theorem Silent.after {r : Rest} (h : r.Silent) (i : Interlude σ ℓ) : (r.after i).Silent := by
  unfold Rest.after
  cases i.instead with
  | none => exact h
  | some p => trivial

end Rest

structure Course (σ ℓ : Type) where
  given : List Command
  stop : Stop
  exchange : Exchange σ ℓ

def entryOf (cs : List Command) : Option Entry := cs.findSome? Command.entry?

theorem entryOf_nil : entryOf [] = none := rfl

theorem entryOf_cons (c : Command) (cs : List Command) :
    entryOf (c :: cs) = c.entry?.or (entryOf cs) := by
  rw [entryOf, List.findSome?_cons]
  cases c.entry? <;> rfl

theorem entryOf_append (cs cs' : List Command) :
    entryOf (cs ++ cs') = (entryOf cs).or (entryOf cs') := List.findSome?_append

variable [Transport σ] [Log ℓ]

def Rest.givenIn (r : Rest) (x : Exchange σ ℓ) : List Command :=
  r.given ((r.poll x).2.replies.drop x.replies.length)

def Rest.course : List (Interlude σ ℓ) → Rest → Exchange σ ℓ → Course σ ℓ
  | [], r, x => ⟨r.givenIn x, (r.poll x).1, (r.poll x).2⟩
  | i :: is, r, x =>
    match r.poll x with
    | (.waiting _ rest, y) =>
      let c := (rest.after i).course is (i.pass y)
      { c with given := r.givenIn x ++ c.given }
    | (stop, y) => ⟨r.givenIn x, stop, y⟩

theorem Program.run_waiting {p : Program} {woken again : Bool} {x y : Exchange σ ℓ} {r : Rest}
    (h : p.run woken x = (.waiting again r, y)) : r.Silent := by
  induction p generalizing woken x with
  | done => cases h
  | crash message => cases h
  | step c next ih =>
    rw [Program.run] at h
    split at h
    · exact ih _ h
    next hw =>
      cases h
      exact Work.pollCommand_waiting hw
    · cases h

theorem Rest.poll_waiting {r r' : Rest} {again : Bool} {x y : Exchange σ ℓ}
    (h : r.poll x = (.waiting again r', y)) : r'.Silent := by
  cases r with
  | ready p => exact Program.run_waiting h
  | within w next =>
    rw [Rest.poll] at h
    split at h
    · exact Program.run_waiting h
    next hw =>
      cases h
      exact Work.poll_waiting hw
    · cases h

section Accounted

variable {v : Http.Visit} {e? : Option Entry} {x : Exchange σ (Journal ℓ)}

theorem Program.accounted_run (h : Accounted v e? x) (p : Program) (woken : Bool) :
    ∃ rs, (p.run woken x).2.replies = x.replies ++ rs ∧
      Accounted v (e?.or (entryOf (p.given rs))) (p.run woken x).2 := by
  induction p generalizing woken x e? with
  | done => exact ⟨[], (List.append_nil _).symm, by rwa [given, entryOf_nil, Option.or_none]⟩
  | crash => exact ⟨[], (List.append_nil _).symm, by rwa [given, entryOf_nil, Option.or_none]⟩
  | step c next ih =>
    have hc := Work.accounted_pollCommand h c
    have hr := Work.replies_pollCommand c x
    have hgiven : entryOf ((step c next).given []) = c.entry? := by
      rw [given, entryOf_cons, entryOf_nil, Option.or_none]
    rw [Program.run]
    split
    next r y hy =>
      rw [hy] at hc hr
      obtain ⟨rs, hrs, hrun⟩ := ih r (hc.tell r) (woken || r.wakes)
      refine ⟨r :: rs, ?_, ?_⟩
      · rw [hrs, Exchange.tell, hr, List.append_assoc]
        rfl
      · rwa [given, entryOf_cons, ← Option.or_assoc]
    next again w y hy =>
      rw [hy] at hc hr
      exact ⟨[], by rw [hr, List.append_nil], by rwa [hgiven]⟩
    next message y hy =>
      rw [hy] at hc hr
      exact ⟨[], by rw [hr, List.append_nil], by rwa [hgiven]⟩

theorem Rest.accounted_poll (h : Accounted v e? x) {r : Rest} (hr : r.Silent) :
    Accounted v (e?.or (entryOf (r.givenIn x))) (r.poll x).2 := by
  suffices ∃ rs, (r.poll x).2.replies = x.replies ++ rs ∧
      Accounted v (e?.or (entryOf (r.given rs))) (r.poll x).2 by
    -- the replies there were before are not those of this poll
    obtain ⟨rs, hrs, hp⟩ := this
    rwa [givenIn, hrs, List.drop_left]
  cases r with
  | ready p => exact p.accounted_run h false
  | within w next =>
    have hw := Work.unrecorded_poll (x := x) hr
    rw [Rest.poll]
    split
    next r y hy =>
      rw [hy] at hw
      obtain ⟨rs, hrs, hrun⟩ := (next r).accounted_run ((h.unrecorded hw).tell r) r.wakes
      refine ⟨r :: rs, ?_, hrun⟩
      rw [hrs, Exchange.tell, hw.replies, List.append_assoc]
      rfl
    next again w y hy =>
      rw [hy] at hw
      refine ⟨[], by rw [hw.replies, List.append_nil], ?_⟩
      rw [given, entryOf_nil, Option.or_none]
      exact h.unrecorded hw
    next message y hy =>
      rw [hy] at hw
      refine ⟨[], by rw [hw.replies, List.append_nil], ?_⟩
      rw [given, entryOf_nil, Option.or_none]
      exact h.unrecorded hw

theorem Rest.accounted_course {waits : List (Interlude σ ℓ)} (h : Accounted v e? x) {r : Rest}
    (hr : r.Silent) :
    Accounted v (e?.or (entryOf (r.course (waits.map .journaled) x).given))
      (r.course (waits.map .journaled) x).exchange := by
  induction waits generalizing r x e? with
  | nil => exact Rest.accounted_poll h hr
  | cons i waits ih =>
    have hp := Rest.accounted_poll h hr
    rw [List.map_cons, course]
    split
    next again rest y hy =>
      rw [hy] at hp
      simp only
      rw [entryOf_append, ← Option.or_assoc]
      exact ih (Interlude.accounted_pass hp i) ((Rest.poll_waiting hy).after i.journaled)
    next stop y _ hy =>
      rw [hy] at hp
      exact hp

end Accounted

end AccessTrail
