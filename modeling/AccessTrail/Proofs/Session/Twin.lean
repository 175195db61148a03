import AccessTrail.Log.Memory
import AccessTrail.Transport.Buffered
import AccessTrail.Proofs.Handler.Twin
import AccessTrail.Proofs.Session.Event

namespace AccessTrail

variable {σ ℓ ℓ' : Type}

inductive Event.Twin : Event ℓ → Event ℓ' → Prop
  | head : Twin .head .head
  | body : Twin .body .body
  | drop : Twin .drop .drop
  | poll : Twin .poll .poll
  | turn (p) : Twin (.turn p) (.turn p)
  | elsewhere (log now log' now') : Twin (.elsewhere log now) (.elsewhere log' now')

namespace Session

structure Twin (s : Session ℓ) (s' : Session ℓ') : Prop where
  program : s'.program = s.program
  exchange : s.exchange.Twin s'.exchange
  task : s'.task = s.task
  aborted : s'.aborted = s.aborted

namespace Twin

variable {s : Session ℓ} {s' : Session ℓ'}

theorem stream (h : s.Twin s') : s'.stream = s.stream := congrArg Observer.inner h.exchange.observer

theorem setStream (h : s.Twin s') (t : Streamed) : (s.setStream t).Twin (s'.setStream t) :=
  ⟨h.program, h.exchange.setInner t, h.task, h.aborted⟩

theorem setTask (h : s.Twin s') (t : Task) : Twin { s with task := t } { s' with task := t } :=
  ⟨h.program, h.exchange, rfl, h.aborted⟩

theorem spawn (h : s.Twin s') : s.spawn.Twin s'.spawn := by
  rw [Session.spawn, Session.spawn, h.task, h.stream]
  split
  · exact h.setTask .queued
  · exact h

theorem noteCrash (h : s.Twin s') : s.noteCrash.Twin s'.noteCrash := by
  rw [Session.noteCrash, Session.noteCrash, h.task]
  split
  · exact ⟨h.program, h.exchange.note _, rfl, h.aborted⟩
  · exact h

theorem takeHead (h : s.Twin s') :
    s'.takeHead.1 = s.takeHead.1 ∧ s.takeHead.2.Twin s'.takeHead.2 := by
  rw [Session.takeHead, Session.takeHead, h.spawn.stream]
  split
  · exact ⟨rfl, (h.spawn.setStream _).noteCrash⟩
  · exact ⟨rfl, h.spawn.setStream _⟩

theorem takeBody (h : s.Twin s') :
    s'.takeBody.1 = s.takeBody.1 ∧ s.takeBody.2.Twin s'.takeBody.2 := by
  rw [Session.takeBody, Session.takeBody, h.stream]
  exact ⟨rfl, h.setStream _⟩

theorem drop (h : s.Twin s') : s.drop.Twin s'.drop := by
  rw [Session.drop, Session.drop, h.stream]
  split
  · exact ⟨h.program, (h.setStream _).exchange, h.task, rfl⟩
  · exact ⟨h.program, (h.setStream _).exchange, h.task, rfl⟩
  · exact h.setStream _
  · exact h.setStream _

theorem turn (h : s.Twin s') (p : Program) : (s.turn p).Twin (s'.turn p) := by
  rw [Session.turn, Session.turn, h.task]
  split
  · exact h.setTask _
  · exact h

variable [Log ℓ] [Log ℓ'] (hℓ : Log.Returns ℓ) (hℓ' : Log.Returns ℓ')
include hℓ hℓ'

theorem close (h : s.Twin s') {x : Exchange Streamed ℓ} {y : Exchange Streamed ℓ'} (hxy : x.Twin y)
    (e : End) :
    (s.close e x).Twin (s'.close e y) := by
  obtain ⟨e', x', y', hx, hy, htwin⟩ := (e.twins_leave hℓ hℓ' hxy).split
  rw [Session.close, Session.close, hx, hy]
  cases e' <;> exact ⟨h.program, htwin, rfl, h.aborted⟩

theorem settle (h : s.Twin s') {r : Stop × Exchange Streamed ℓ} {r' : Stop × Exchange Streamed ℓ'}
    (hr : Exchange.Twins r r') : (s.settle r).2.Twin (s'.settle r').2 := by
  obtain ⟨stop, x, y, rfl, rfl, hxy⟩ := hr.split
  cases stop with
  | returned => exact h.close hℓ hℓ' hxy .returned
  | crashed message => exact h.close hℓ hℓ' hxy (.crashed message)
  | waiting => exact ⟨h.program, hxy, rfl, h.aborted⟩

theorem cancel (h : s.Twin s') : s.cancel.Twin s'.cancel := by
  rw [Session.cancel, Session.cancel, h.task, h.stream]
  split
  · exact (h.setStream _).setTask _
  · exact h.close hℓ hℓ' h.exchange .cancelled
  · exact h
  · exact h

theorem pollTask (h : s.Twin s') : s.pollTask.2.Twin s'.pollTask.2 := by
  rw [Session.pollTask, Session.pollTask, h.aborted, h.task, h.program]
  split
  · exact h.cancel hℓ hℓ'
  · split
    · exact h.settle hℓ hℓ' ((Rest.ready s.program).twins_poll hℓ hℓ' h.exchange)
    · next rest _ => exact h.settle hℓ hℓ' (rest.twins_poll hℓ hℓ' h.exchange)
    · exact h
    · exact h

theorem react (h : s.Twin s') {e : Event ℓ} {e' : Event ℓ'} (he : e.Twin e') :
    (s.react e).Twin (s'.react e') := by
  cases he with
  | head => exact h.takeHead.2
  | body => exact h.takeBody.2
  | drop => exact h.drop
  | poll => exact h.pollTask hℓ hℓ'
  | turn p => exact h.turn p
  | elsewhere log now log' now' =>
    let i : Interlude Streamed ℓ := { log, now }
    let j : Interlude Streamed ℓ' := { log := log', now := now' }
    have hij : i.Twin j := ⟨rfl, rfl⟩
    exact ⟨h.program, hij.pass h.exchange, h.task, h.aborted⟩

theorem run (h : s.Twin s') {es : List (Event ℓ)} {es' : List (Event ℓ')}
    (hes : List.Forall₂ Event.Twin es es') :
    (s.run es).Twin (s'.run es') := by
  induction hes generalizing s s' with
  | nil => exact h
  | cons he _ ih => exact ih (h.react hℓ hℓ' he)

end Twin

end Session

/-- Whatever becomes of its records, a request is served the same: over any transport, every call is
answered the same and leaves the observer the same, and so does the end; and at any time, client and
handler are told the same. -/
theorem Handler.unaffected_by_log [Transport σ] [Log ℓ] [Log ℓ'] (hℓ : Log.Returns ℓ)
    (hℓ' : Log.Returns ℓ') (handler : Handler) (q : Http.Request) (log : ℓ) (log' : ℓ')
    (now now' : Clock) :
    (∀ (s : σ) (waits : List (Interlude σ ℓ)) (waits' : List (Interlude σ ℓ'))
        (last : Interlude σ ℓ) (last' : Interlude σ ℓ'),
      List.Forall₂ Interlude.Twin waits waits' → last.Twin last' →
      let r := Rest.ready (handler q)
      let x : Exchange σ ℓ := .enter q s log now
      let x' : Exchange σ ℓ' := .enter q s log' now'
      let c := r.course waits x
      let c' := r.course waits' x'
      let z := c.stop.ending.leave (last.pass c.exchange)
      let z' := c'.stop.ending.leave (last'.pass c'.exchange)
      r.coursePoints waits' x' = r.coursePoints waits x ∧ z'.1 = z.1 ∧
        z'.2.observer = z.2.observer ∧ z'.2.replies = z.2.replies ∧ z'.2.raw = z.2.raw ∧
        z'.2.notices.filter (!·.isLoss) = z.2.notices.filter (!·.isLoss)) ∧
    ∀ (es : List (Event ℓ)) (es' : List (Event ℓ')), List.Forall₂ Event.Twin es es' →
      let s := (Session.start handler q log now).run es
      let s' := (Session.start handler q log' now').run es'
      s'.takeHead.1 = s.takeHead.1 ∧ s'.takeBody.1 = s.takeBody.1 ∧ s'.task = s.task ∧
        s'.exchange.observer = s.exchange.observer ∧ s'.exchange.replies = s.exchange.replies ∧
        s'.exchange.raw = s.exchange.raw := by
  constructor
  · intro s waits waits' last last' hwaits hlast r x x' c c' z z'
    have hx : x.Twin x' := Exchange.twin_enter q s log log' now now'
    obtain ⟨hstop, hc⟩ : Exchange.Twins (c.stop, c.exchange) (c'.stop, c'.exchange) :=
      r.twins_course hℓ hℓ' hwaits hx
    have hz : Exchange.Twins z z' := by
      change Exchange.Twins _ (c'.stop.ending.leave _)
      rw [show c'.stop = c.stop from hstop]
      exact c.stop.ending.twins_leave hℓ hℓ' (hlast.pass hc)
    exact ⟨r.coursePoints_twin hℓ hℓ' hwaits hx, hz.answer, hz.exchange.observer,
      hz.exchange.replies, hz.exchange.raw, hz.exchange.notices⟩
  · intro es es' hes s s'
    have hstart : (Session.start handler q log now).Twin (Session.start handler q log' now') :=
      ⟨rfl, Exchange.twin_enter .., rfl, rfl⟩
    have hs : s.Twin s' := hstart.run hℓ hℓ' hes
    exact ⟨hs.takeHead.1, hs.takeBody.1, hs.task, hs.exchange.observer, hs.exchange.replies,
      hs.exchange.raw⟩

theorem Handler.unaffected_by_broken_log :
    let handler : Handler := fun _ =>
      .sequence [.fail .internalServerError ⟨"boom", []⟩, .tally, .record { status := 200 },
        .tally] .done
    let x : Exchange Buffered MemoryLog := .enter {} {} {} ⟨"T", {}⟩
    let x' : Exchange Buffered BrokenLog := .enter {} {} ⟨"disk full"⟩ ⟨"T", {}⟩
    let z := (Rest.ready (handler {})).course [] x
    let z' := (Rest.ready (handler {})).course [] x'
    let events : List (Event MemoryLog) := [.head, .poll]
    let events' : List (Event BrokenLog) := [.head, .poll]
    Log.Returns MemoryLog ∧ Log.Returns BrokenLog ∧ List.Forall₂ Event.Twin events events' ∧
      (z'.stop.ending.leave z'.exchange).2.observer.inner.response =
        (z.stop.ending.leave z.exchange).2.observer.inner.response ∧
      ((Session.start handler {} ⟨"disk full"⟩ ⟨"T", {}⟩).run events').takeHead.1 =
        ((Session.start handler {} {} ⟨"T", {}⟩).run events).takeHead.1 := by
  intro handler x x' z z' events events'
  have hmemory : Log.Returns MemoryLog := nofun
  have hbroken : Log.Returns BrokenLog := nofun
  have hevents : List.Forall₂ Event.Twin events events' := .cons .head (.cons .poll .nil)
  obtain ⟨hserved, hsession⟩ :=
    Handler.unaffected_by_log (σ := Buffered) hmemory hbroken handler {} {} ⟨"disk full"⟩
    ⟨"T", {}⟩ ⟨"T", {}⟩
  obtain ⟨-, -, hobserver, -⟩ := hserved {} [] [] {} {} .nil ⟨rfl, rfl⟩
  exact ⟨hmemory, hbroken, hevents, congrArg (·.inner.response) hobserver,
    (hsession events events' hevents).1⟩

end AccessTrail
