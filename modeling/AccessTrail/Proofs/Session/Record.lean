import AccessTrail.Log.Memory
import AccessTrail.Proofs.Serving
import AccessTrail.Proofs.Session.Event

namespace AccessTrail

variable {ℓ : Type}

namespace Session

structure Aside (s s' : Session (Journal ℓ)) : Prop where
  task : s'.task = s.task
  aborted : s.aborted = true → s'.aborted = true
  tally : s'.exchange.observer.tally = s.exchange.observer.tally
  books : ∀ {v e?}, Accounted v e? s.exchange → Accounted v e? s'.exchange

namespace Aside

variable {s s' s'' : Session (Journal ℓ)}

theorem refl (s : Session (Journal ℓ)) : Aside s s := ⟨rfl, id, rfl, id⟩

theorem trans (h : Aside s s') (h' : Aside s' s'') : Aside s s'' where
  task := h'.task.trans h.task
  aborted := h'.aborted ∘ h.aborted
  tally := h'.tally.trans h.tally
  books := h'.books ∘ h.books

theorem setStream (t : Streamed) (s : Session (Journal ℓ)) : Aside s (s.setStream t) :=
  ⟨rfl, id, rfl, fun h => h.unrecorded (.setInner t s.exchange)⟩

theorem noteCrash (s : Session (Journal ℓ)) : Aside s s.noteCrash := by
  unfold Session.noteCrash
  split
  · exact ⟨rfl, id, rfl, fun h => h.unrecorded (.note _ s.exchange)⟩
  · exact refl s

theorem takeHead_spawn (s : Session (Journal ℓ)) : Aside s.spawn s.takeHead.2 := by
  rw [Session.takeHead]
  split
  · exact (setStream _ s.spawn).trans (noteCrash _)
  · exact setStream _ s.spawn

theorem takeHead (h : s.task ≠ .unspawned) : Aside s s.takeHead.2 := by
  have hs := takeHead_spawn s
  rwa [spawn_of_spawned h] at hs

theorem takeBody (s : Session (Journal ℓ)) : Aside s s.takeBody.2 := setStream _ s

theorem drop (s : Session (Journal ℓ)) : Aside s s.drop := by
  unfold Session.drop
  split
  · exact ⟨rfl, fun _ => rfl, rfl, (setStream _ s).books⟩
  · exact ⟨rfl, fun _ => rfl, rfl, (setStream _ s).books⟩
  · exact setStream _ s
  · exact setStream _ s

theorem elsewhere (log : ℓ → ℓ) (now : Clock → Clock) (s : Session (Journal ℓ)) :
    Aside s (s.elsewhere (.lift log) now) :=
  ⟨rfl, id, rfl, fun h => Interlude.accounted_pass h { log, now }⟩

end Aside

structure Fresh (s : Session ℓ) : Prop where
  aborted : s.aborted = false
  reader : s.stream.reader = .awaiting
  head : s.stream.head = none
  released : s.stream.released = false

namespace Fresh

variable {s : Session ℓ}

theorem takeHead (h : s.Fresh) : s.takeHead.2 = s.spawn := by
  have hs : s.spawn.stream = s.stream := congrArg (·.observer.inner) (spawn_exchange s)
  rw [Session.takeHead, hs, Streamed.takeHead, h.reader, h.head, h.released, ← hs]
  rfl

theorem takeBody (h : s.Fresh) : s.takeBody.2 = s := by
  rw [Session.takeBody, Streamed.takeBody, h.reader]
  rfl

theorem drop (h : s.Fresh) : s.drop = { s.setStream s.stream.dropReader with aborted := true } := by
  rw [Session.drop, h.reader]

end Fresh

structure Waits (v : Http.Visit) (t : Task) (s : Session (Journal ℓ)) : Prop where
  task : s.task = t
  fresh : s.Fresh
  books : Accounted v none s.exchange

structure Left (s : Session ℓ) : Prop where
  task : s.task = .unspawned
  reader : s.stream.reader = .gone

structure Lapsed (v : Http.Visit) (s : Session (Journal ℓ)) : Prop where
  aborted : s.aborted = true
  task : s.task = .queued ∨ ∃ crash, s.task = .ended crash
  books : Accounted v none s.exchange

inductive Begun (v : Http.Visit) (s : Session (Journal ℓ)) : Prop
  | running {r : Rest} {e? : Option Entry} :
    s.task = .running r → r.Silent → Accounted v e? s.exchange → Begun v s
  | ended {crash : Option String} {e : Entry} :
    s.task = .ended crash → Accounted v (some e) s.exchange → Begun v s

section

variable {v : Http.Visit} {t : Task} {s s' : Session (Journal ℓ)}

theorem Waits.takeBody (h : Waits v t s) : Waits v t s.takeBody.2 := by
  rwa [h.fresh.takeBody]

theorem Waits.elsewhere (h : Waits v t s) (log : ℓ → ℓ) (now : Clock → Clock) :
    Waits v t (s.elsewhere (.lift log) now) where
  task := h.task
  fresh := ⟨h.fresh.aborted, h.fresh.reader, h.fresh.head, h.fresh.released⟩
  books := (Aside.elsewhere log now s).books h.books

theorem Waits.drop (h : Waits v .queued s) : Lapsed v s.drop where
  aborted := by rw [h.fresh.drop]
  task := .inl ((Aside.drop s).task.trans h.task)
  books := (Aside.drop s).books h.books

theorem Lapsed.spawned (h : Lapsed v s) : s.task ≠ .unspawned := by
  rcases h.task with ht | ⟨crash, ht⟩ <;> simp [ht]

theorem Lapsed.aside (h : Lapsed v s) (hs : Aside s s') : Lapsed v s' where
  aborted := hs.aborted h.aborted
  task := by
    rw [hs.task]
    exact h.task
  books := hs.books h.books

theorem Begun.spawned (h : Begun v s) : s.task ≠ .unspawned := by
  cases h with
  | running ht => simp [ht]
  | ended ht => simp [ht]

theorem Begun.aside (h : Begun v s) (hs : Aside s s') : Begun v s' := by
  cases h with
  | running ht hr hx => exact .running (hs.task.trans ht) hr (hs.books hx)
  | ended ht hx => exact .ended (hs.task.trans ht) (hs.books hx)

theorem Begun.turn (h : Begun v s) (p : Program) : Begun v (s.turn p) := by
  cases h with
  | running ht _ hx =>
    rw [Session.turn, ht]
    exact .running (r := .ready p) rfl trivial hx
  | ended ht hx =>
    rw [Session.turn, ht]
    exact .ended ht hx

variable [Log ℓ] {e? : Option Entry} {x : Exchange Streamed (Journal ℓ)}

theorem begun_close (h : Accounted v e? x) (e : End) (s : Session (Journal ℓ)) :
    Begun v (close e x s) := by
  have hf := h.finish e.isCrash
  rw [← End.leave_snd] at hf
  unfold close
  split <;> next hl =>
    rw [hl] at hf
    exact .ended rfl hf

theorem begun_settle (h : Accounted v e? x) {r : Rest} (hr : r.Silent) (s : Session (Journal ℓ)) :
    Begun v (settle (r.poll x) s).2 := by
  have hp := Rest.accounted_poll h hr
  unfold settle
  split
  next y hy =>
    rw [hy] at hp
    exact begun_close hp .returned s
  next message y hy =>
    rw [hy] at hp
    exact begun_close hp (.crashed message) s
  next again r' y hy =>
    rw [hy] at hp
    exact .running rfl (Rest.poll_waiting hy) hp

theorem Begun.pollTask (h : Begun v s) : Begun v s.pollTask.2 := by
  cases h with
  | running ht hr hx =>
    rw [Session.pollTask, cancel, ht]
    split
    · exact begun_close hx .cancelled s
    · exact begun_settle hx hr s
  | ended ht hx =>
    rw [Session.pollTask, cancel, ht]
    split <;> exact .ended ht hx

end

end Session

inductive Phase
  | idle
  | left
  | queued
  | lapsed
  | begun

namespace Phase

def after : Phase → Event ℓ → Phase
  | idle, .head => queued
  | idle, .drop => left
  | queued, .poll => begun
  | queued, .drop => lapsed
  | p, _ => p

def Holds (v : Http.Visit) : Phase → Session (Journal ℓ) → Prop
  | idle => Session.Waits v .unspawned
  | left => Session.Left
  | queued => Session.Waits v .queued
  | lapsed => Session.Lapsed v
  | begun => Session.Begun v

variable [Log ℓ] {v : Http.Visit} {s : Session (Journal ℓ)}

theorem holds_idle (h : Session.Waits v .unspawned s) (e : Event ℓ) :
    (after idle e).Holds v (s.react e.journaled) := by
  cases e with
  | head =>
    change Session.Waits v .queued s.takeHead.2
    rw [h.fresh.takeHead, Session.spawn_of_unspawned h.task h.fresh.reader]
    exact ⟨rfl, ⟨h.fresh.aborted, h.fresh.reader, h.fresh.head, h.fresh.released⟩, h.books⟩
  | body => exact h.takeBody
  | poll =>
    change Session.Waits v .unspawned s.pollTask.2
    rwa [Session.pollTask, h.fresh.aborted, h.task]
  | drop =>
    change Session.Left s.drop
    rw [h.fresh.drop]
    exact ⟨h.task, rfl⟩
  | turn p =>
    change Session.Waits v .unspawned (s.turn p)
    rwa [Session.turn, h.task]
  | elsewhere log now => exact h.elsewhere log now

theorem holds_queued (h : Session.Waits v .queued s) (e : Event ℓ) :
    (after queued e).Holds v (s.react e.journaled) := by
  cases e with
  | head =>
    change Session.Waits v .queued s.takeHead.2
    rwa [h.fresh.takeHead, Session.spawn_of_spawned (by simp [h.task])]
  | body => exact h.takeBody
  | poll =>
    change Session.Begun v s.pollTask.2
    rw [Session.pollTask, h.fresh.aborted, h.task]
    have hr : (Rest.ready s.program).Silent := trivial
    exact Session.begun_settle h.books hr s
  | drop => exact h.drop
  | turn p =>
    change Session.Waits v .queued (s.turn p)
    rwa [Session.turn, h.task]
  | elsewhere log now => exact h.elsewhere log now

theorem holds_left (h : Session.Left s) (e : Event ℓ) : Session.Left (s.react e.journaled) := by
  cases e with
  | head =>
    change Session.Left s.takeHead.2
    have hs : s.spawn = s := by rw [Session.spawn, h.task, h.reader]
    rw [Session.takeHead, hs, Streamed.takeHead, h.reader]
    exact ⟨h.task, h.reader⟩
  | body =>
    change Session.Left s.takeBody.2
    rw [Session.takeBody, Streamed.takeBody, h.reader]
    exact ⟨h.task, h.reader⟩
  | poll =>
    change Session.Left s.pollTask.2
    rw [Session.pollTask, Session.cancel, h.task]
    split <;> exact h
  | drop =>
    change Session.Left s.drop
    rw [Session.drop, h.reader]
    exact ⟨h.task, rfl⟩
  | turn p =>
    change Session.Left (s.turn p)
    rwa [Session.turn, h.task]
  | elsewhere log now => exact ⟨h.task, h.reader⟩

theorem holds_lapsed (h : Session.Lapsed v s) (e : Event ℓ) :
    Session.Lapsed v (s.react e.journaled) := by
  cases e with
  | head => exact h.aside (.takeHead h.spawned)
  | body => exact h.aside (.takeBody s)
  | poll =>
    change Session.Lapsed v s.pollTask.2
    rw [Session.pollTask, if_pos h.aborted, Session.cancel]
    rcases h.task with ht | ⟨crash, ht⟩
    -- the stream is let go, and there is no observer yet that would write the record
    · rw [ht]
      have ha := Session.Aside.setStream (Transport.release false s.stream) s
      exact ⟨h.aborted, .inr ⟨none, rfl⟩, ha.books h.books⟩
    · rwa [ht]
  | drop => exact h.aside (.drop s)
  | turn p =>
    change Session.Lapsed v (s.turn p)
    rcases h.task with ht | ⟨crash, ht⟩ <;> rwa [Session.turn, ht]
  | elsewhere log now => exact h.aside (.elsewhere log now s)

theorem holds_begun (h : Session.Begun v s) (e : Event ℓ) :
    Session.Begun v (s.react e.journaled) := by
  cases e with
  | head => exact h.aside (.takeHead h.spawned)
  | body => exact h.aside (.takeBody s)
  | poll => exact h.pollTask
  | drop => exact h.aside (.drop s)
  | turn p => exact h.turn p
  | elsewhere log now => exact h.aside (.elsewhere log now s)

theorem holds_react {p : Phase} (h : p.Holds v s) (e : Event ℓ) :
    (p.after e).Holds v (s.react e.journaled) := by
  cases p with
  | idle => exact holds_idle h e
  | left => exact holds_left h e
  | queued => exact holds_queued h e
  | lapsed => exact holds_lapsed h e
  | begun => exact holds_begun h e

theorem holds_run {p : Phase} (h : p.Holds v s) (es : List (Event ℓ)) :
    (es.foldl after p).Holds v (s.run (es.map .journaled)) := by
  induction es generalizing p s with
  | nil => exact h
  | cons e es ih => exact ih (holds_react h e)

end Phase

def PolledFirst (es : List (Event ℓ)) : Prop :=
  ∃ before after, es = before ++ .poll :: after ∧ .head ∈ before ∧ .drop ∉ before

theorem polledFirst_concat (es : List (Event ℓ)) (e : Event ℓ) :
    PolledFirst (es ++ [e]) ↔ PolledFirst es ∨ e = .poll ∧ .head ∈ es ∧ .drop ∉ es := by
  constructor
  · rintro ⟨before, after, h, hhead, hdrop⟩
    rcases List.eq_nil_or_concat after with rfl | ⟨after, e', rfl⟩
    · obtain ⟨rfl, he⟩ := List.append_inj' h rfl
      exact .inr ⟨List.head_eq_of_cons_eq he, hhead, hdrop⟩
    · rw [List.concat_eq_append, ← List.cons_append, ← List.append_assoc] at h
      exact .inl ⟨before, after, (List.append_inj' h rfl).1, hhead, hdrop⟩
  · rintro (⟨before, after, rfl, hhead, hdrop⟩ | ⟨rfl, hhead, hdrop⟩)
    · exact ⟨before, after ++ [e], by rw [List.append_assoc, List.cons_append], hhead, hdrop⟩
    · exact ⟨es, [], rfl, hhead, hdrop⟩

namespace Phase

def Marks (es : List (Event ℓ)) : Phase → Prop
  | idle => .head ∉ es ∧ .drop ∉ es ∧ ¬PolledFirst es
  | queued => .head ∈ es ∧ .drop ∉ es ∧ ¬PolledFirst es
  | left | lapsed => .drop ∈ es ∧ ¬PolledFirst es
  | begun => PolledFirst es

theorem marks_after {p : Phase} {es : List (Event ℓ)} (h : p.Marks es) (e : Event ℓ) :
    (p.after e).Marks (es ++ [e]) := by
  cases p <;> cases e <;> simp_all [Marks, after, polledFirst_concat]

theorem marks (es : List (Event ℓ)) : (es.foldl after idle).Marks es := by
  induction es using List.reverseRecOn with
  | nil => simp [Marks, PolledFirst]
  | append_singleton es e ih =>
    rw [List.foldl_append]
    exact marks_after ih e

end Phase

namespace Session

variable [Log ℓ]

def play (handler : Handler) (q : Http.Request) (log : ℓ) (now : Clock) (es : List (Event ℓ)) :
    Session (Journal ℓ) := (start handler q ⟨log, []⟩ now).run (es.map .journaled)

/-- A task that has ended left one record if it was polled before the client went away, and else
none. -/
theorem ended_recorded (handler : Handler) (q : Http.Request) (log : ℓ) (now : Clock)
    (es : List (Event ℓ)) {crash : Option String}
    (h : (play handler q log now es).task = .ended crash) :
    let asked := (play handler q log now es).exchange.log.asked
    (PolledFirst es → ∃ stamp e, asked = [(⟨stamp, q.visit, e⟩ : Record).bytes]) ∧
      (¬PolledFirst es → asked = []) := by
  -- the phase tells from the session what its log was asked, from the events when it was polled
  have hstart : Phase.idle.Holds q.visit (start handler q (⟨log, []⟩ : Journal ℓ) now) :=
    ⟨rfl, ⟨rfl, rfl, rfl, rfl⟩, ⟨rfl, rfl, now.stamp, rfl⟩⟩
  have hrun : Phase.Holds q.visit _ (play handler q log now es) := Phase.holds_run hstart es
  have hmarks := Phase.marks es
  cases hp : es.foldl Phase.after .idle with
  | idle =>
    rw [hp] at hrun
    rw [hrun.task] at h
    cases h
  | left =>
    rw [hp] at hrun
    rw [hrun.task] at h
    cases h
  | queued =>
    rw [hp] at hrun
    rw [hrun.task] at h
    cases h
  | lapsed =>
    rw [hp] at hrun hmarks
    obtain ⟨_, hasked⟩ := hrun.books.asked
    exact ⟨fun hf => absurd hf hmarks.2, fun _ => hasked⟩
  | begun =>
    rw [hp] at hrun hmarks
    cases hrun with
    | running ht =>
      rw [ht] at h
      cases h
    | ended _ hx =>
      obtain ⟨stamp, hasked⟩ := hx.asked
      exact ⟨fun _ => ⟨stamp, _, hasked⟩, fun hf => absurd hmarks hf⟩

theorem ended_recorded_of_polled :
    let s := play (fun _ => .done) {} ({} : MemoryLog) ⟨"T", {}⟩ [.head, .poll]
    s.task = .ended none ∧
      ∃ stamp e, s.exchange.log.asked =
        [(⟨stamp, ({} : Http.Request).visit, e⟩ : Record).bytes] := by
  have hended : (play (fun _ => .done) {} ({} : MemoryLog) ⟨"T", {}⟩ [.head, .poll]).task =
      .ended none := rfl
  have hfirst : PolledFirst (ℓ := MemoryLog) [.head, .poll] := ⟨[.head], [], rfl, by simp, by simp⟩
  exact ⟨hended, (ended_recorded _ _ _ _ _ hended).1 hfirst⟩

theorem not_recorded_of_spawned :
    ¬∀ (handler : Handler) (q : Http.Request) (log : MemoryLog) (now : Clock)
        (es : List (Event MemoryLog)) (crash : Option String),
      .head ∈ es → (play handler q log now es).task = .ended crash →
      ∃ stamp e, (play handler q log now es).exchange.log.asked =
        [(⟨stamp, q.visit, e⟩ : Record).bytes] := by
  intro h
  obtain ⟨_, _, hasked⟩ :=
    h (fun _ => .done) {} {} ⟨"T", {}⟩ [.head, .drop, .poll] none (by simp) rfl
  cases hasked

end Session

end AccessTrail
