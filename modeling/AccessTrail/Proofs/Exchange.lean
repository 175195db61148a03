import AccessTrail.Exchange
import Mathlib.Tactic

namespace AccessTrail

variable {σ ℓ : Type}

def Log.Returns (ℓ : Type) [Log ℓ] : Prop :=
  ∀ (bs : Bytes) (l : ℓ) (message : String), (append bs l).1 ≠ .crashed message

namespace Exchange

variable {x y z : Exchange σ ℓ} {e : Entry}

structure Unrecorded (x y : Exchange σ ℓ) : Prop where
  visit : y.observer.visit = x.observer.visit
  logged : y.observer.logged = x.observer.logged
  log : y.log = x.log
  now : y.now = x.now
  replies : y.replies = x.replies

/-- The log was asked once for the line of `e` on the way from `x` to `y`. -/
structure Recorded [Log ℓ] (e : Entry) (x y : Exchange σ ℓ) : Prop where
  visit : y.observer.visit = x.observer.visit
  logged : y.observer.logged = true
  log : y.log = (Log.append (x.line e).bytes x.log).2
  now : y.now = x.now
  replies : y.replies = x.replies

namespace Unrecorded

theorem refl (x : Exchange σ ℓ) : Unrecorded x x := ⟨rfl, rfl, rfl, rfl, rfl⟩

theorem trans (h : Unrecorded x y) (h' : Unrecorded y z) : Unrecorded x z where
  visit := h'.visit.trans h.visit
  logged := h'.logged.trans h.logged
  log := h'.log.trans h.log
  now := h'.now.trans h.now
  replies := h'.replies.trans h.replies

theorem note (n : Notice) (x : Exchange σ ℓ) : Unrecorded x (x.note n) := ⟨rfl, rfl, rfl, rfl, rfl⟩

theorem setInner (s : σ) (x : Exchange σ ℓ) : Unrecorded x (x.setInner s) :=
  ⟨rfl, rfl, rfl, rfl, rfl⟩

theorem setStatus (status : Http.Status) (x : Exchange σ ℓ) : Unrecorded x (x.setStatus status) :=
  ⟨rfl, rfl, rfl, rfl, rfl⟩

theorem replyHead [Transport σ] (status : Http.Status) (x : Exchange σ ℓ) :
    Unrecorded x (x.replyHead status) := ⟨rfl, rfl, rfl, rfl, rfl⟩

end Unrecorded

theorem Recorded.trans [Log ℓ] (h : Recorded e x y) (h' : Unrecorded y z) : Recorded e x z where
  visit := h'.visit.trans h.visit
  logged := h'.logged.trans h.logged
  log := h'.log.trans h.log
  now := h'.now.trans h.now
  replies := h'.replies.trans h.replies

theorem record_returns [Log ℓ] (h : Log.Returns ℓ) (e : Entry) (x : Exchange σ ℓ) :
    (x.record e).1 = none := by
  unfold record
  split
  · rfl
  · simp only
    split
    · rfl
    · rfl
    next message _ hlog => exact absurd (congrArg Prod.fst hlog) (h _ _ message)

theorem not_returns_of_record [Log ℓ] {message : String} (h : x.record e = (some message, y)) :
    ¬Log.Returns ℓ := by
  intro hlog
  cases (congrArg Prod.fst h).symm.trans (record_returns hlog e x)

theorem record_of_logged [Log ℓ] (h : x.observer.logged = true) : x.record e = (none, x) := by
  rw [record, if_pos h]

theorem recorded_record [Log ℓ] (h : x.observer.logged = false) : Recorded e x (x.record e).2 := by
  rw [record, if_neg (by simp [h])]
  simp only
  split <;> next hlog => exact ⟨rfl, rfl, (congrArg Prod.snd hlog).symm, rfl, rfl⟩

theorem inner_record [Log ℓ] (e : Entry) (x : Exchange σ ℓ) :
    (x.record e).2.observer.inner = x.observer.inner := by
  unfold record
  split
  · rfl
  · simp only
    split <;> rfl

theorem observer_record [Log ℓ] (e : Entry) (x : Exchange σ ℓ) :
    (x.record e).2.observer = x.observer ∨
      (x.record e).2.observer = { x.observer with logged := true } := by
  rw [record]
  split
  · exact .inl rfl
  · simp only
    split <;> exact .inr rfl

theorem tally_record [Log ℓ] (e : Entry) (x : Exchange σ ℓ) :
    (x.record e).2.observer.tally = x.observer.tally := by
  rcases observer_record e x with h | h <;> rw [h]

end Exchange

/-- A log together with all that it was ever asked to append by one exchange. -/
structure Journal (ℓ : Type) where
  log : ℓ
  asked : List Bytes := []

instance [Log ℓ] : Log (Journal ℓ) where
  append bs j :=
    let (answer, log) := Log.append bs j.log
    (answer, ⟨log, j.asked ++ [bs]⟩)
  stored j := Log.stored j.log

theorem Journal.returns [Log ℓ] (h : Log.Returns ℓ) : Log.Returns (Journal ℓ) :=
  fun bs j => h bs j.log

def Journal.lift (f : ℓ → ℓ) (j : Journal ℓ) : Journal ℓ := { j with log := f j.log }

/-- The record so far is that of `e?`: the log was asked for its line and for nothing else. -/
structure Accounted (v : Http.Visit) (e? : Option Entry) (x : Exchange σ (Journal ℓ)) : Prop where
  visit : x.observer.visit = v
  logged : x.observer.logged = e?.isSome
  asked : ∃ stamp, x.log.asked = (e?.map fun e => (⟨stamp, v, e⟩ : Record).bytes).toList

namespace Accounted

variable {v : Http.Visit} {e? : Option Entry} {e : Entry} {x y : Exchange σ (Journal ℓ)}

theorem unrecorded (h : Accounted v e? x) (hxy : Exchange.Unrecorded x y) : Accounted v e? y where
  visit := hxy.visit.trans h.visit
  logged := hxy.logged.trans h.logged
  asked := by
    rw [hxy.log]
    exact h.asked

theorem tell (h : Accounted v e? x) (r : Reply) : Accounted v e? (x.tell r) :=
  ⟨h.visit, h.logged, h.asked⟩

theorem recorded [Log ℓ] (h : Accounted v none x) (hxy : Exchange.Recorded e x y) :
    Accounted v (some e) y where
  visit := hxy.visit.trans h.visit
  logged := hxy.logged
  asked := by
    obtain ⟨_, hx⟩ := h.asked
    refine ⟨x.now.stamp, ?_⟩
    rw [hxy.log, ← h.visit]
    change x.log.asked ++ [(x.line e).bytes] = _
    rw [hx]
    rfl

theorem record [Log ℓ] (h : Accounted v e? x) (e : Entry) :
    Accounted v (some (e?.getD e)) (x.record e).2 := by
  cases e? with
  | none => exact h.recorded (Exchange.recorded_record h.logged)
  | some e' => rwa [Exchange.record_of_logged h.logged]

theorem finish [Log ℓ] [Transport σ] (h : Accounted v e? x) (crashed : Bool) :
    Accounted v (some (e?.getD x.closing)) (x.finish crashed).2 :=
  (h.record x.closing).unrecorded ⟨rfl, rfl, rfl, rfl, rfl⟩

end Accounted

end AccessTrail
