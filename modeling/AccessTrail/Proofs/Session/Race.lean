import AccessTrail.Proofs.Session.Truth
import AccessTrail.Proofs.Transport.Shared

/-!
Sessions in finer steps. The client may come in between any two operations of a poll, and also where
the task ends: after the record was made and before the stream is let go. A session is a race in
which it never does.
-/

namespace AccessTrail

variable {ℓ : Type}

open Streamed (Demand Happening)

def Streamed.Demand.event : Demand → Event ℓ
  | .head => .head
  | .body => .body
  | .drop => .drop

inductive Leaving
  | recording : End → Leaving
  | releasing : (crash : Option String) → Leaving

structure Race (ℓ : Type) where
  session : Session ℓ
  leaving : Option Leaving := none
  trace : List Happening := []

namespace Race

inductive Step (ℓ : Type)
  | ask : Demand → Step ℓ
  | poll : List (List Demand) → Step ℓ
  | record
  | release
  | turn : Program → Step ℓ
  | elsewhere : (ℓ → ℓ) → (Clock → Clock) → Step ℓ

def Step.journaled : Step ℓ → Step (Journal ℓ)
  | ask d => .ask d
  | poll plan => .poll plan
  | record => .record
  | release => .release
  | turn p => .turn p
  | elsewhere log now => .elsewhere (.lift log) now

def share (plan : List (List Demand)) (z : Race ℓ) : Exchange Shared ℓ :=
  z.session.exchange.map fun s => { stream := s, plan, trace := z.trace }

def take (x : Exchange Shared ℓ) (z : Race ℓ) : Race ℓ :=
  { z with
    session := { z.session with
      exchange := x.map Shared.stream
      aborted := z.session.aborted || x.observer.inner.left }
    trace := x.observer.inner.trace }

def settle (stop : Stop × Exchange Shared ℓ) (z : Race ℓ) : Race ℓ :=
  match stop with
  | (.waiting _ rest, x) => { z.take x with session.task := .running rest }
  | (.returned, x) => { z.take x with leaving := some (.recording .returned) }
  | (.crashed message, x) => { z.take x with leaving := some (.recording (.crashed message)) }

variable [Log ℓ]

def pollTask (plan : List (List Demand)) (z : Race ℓ) : Race ℓ :=
  match z.session.rest? with
  | some r => settle (r.poll (z.share plan)) z
  | none =>
    match z.session.aborted, z.session.task with
    | true, .running _ => { z with leaving := some (.recording .cancelled) }
    | true, .queued => { z with session := z.session.cancel, trace := z.trace ++ [.released false] }
    | _, _ => z

def record (e : End) (z : Race ℓ) : Race ℓ :=
  let (crash, x) := z.session.exchange.record z.session.exchange.closing
  { z with
    session := { z.session with exchange := x }
    leaving := some (.releasing (crash.or e.message?)) }

def release (crash : Option String) (z : Race ℓ) : Race ℓ where
  session := { z.session with
    exchange.observer := Transport.release crash.isSome z.session.exchange.observer
    task := .ended crash }
  leaving := none
  trace := z.trace ++ [.released crash.isSome]

def step (z : Race ℓ) : Step ℓ → Race ℓ
  | .ask d =>
    { z with session := z.session.react d.event, trace := z.trace ++ z.session.happens d.event }
  | .elsewhere log now => { z with session := z.session.elsewhere log now }
  | .turn p =>
    match z.leaving with
    | none => { z with session := z.session.turn p }
    | some _ => z
  | .poll plan =>
    match z.leaving with
    | none => z.pollTask plan
    | some _ => z
  | .record =>
    match z.leaving with
    | some (.recording e) => z.record e
    | _ => z
  | .release =>
    match z.leaving with
    | some (.releasing crash) => z.release crash
    | _ => z

def run (z : Race ℓ) (steps : List (Step ℓ)) : Race ℓ := steps.foldl step z

end Race

/-- A poll in which the client keeps still, followed at once by what is left of the task if it ends.
-/
def Event.steps : Event ℓ → List (Race.Step ℓ)
  | head => [.ask .head]
  | body => [.ask .body]
  | drop => [.ask .drop]
  | poll => [.poll [], .record, .release]
  | turn p => [.turn p]
  | elsewhere log now => [.elsewhere log now]

namespace Race

variable [Log ℓ]

theorem run_leaving {z : Race ℓ} {e : End} (hz : z.leaving = some (.recording e)) :
    ∃ crash, (Session.close e z.session.exchange z.session).task = .ended crash ∧
      z.run [.record, .release] =
        { session := Session.close e z.session.exchange z.session,
          trace := z.trace ++ [.released crash.isSome] } := by
  have hrun : z.run [.record, .release] = (z.record e).step .release := by
    rw [run, List.foldl_cons, step, hz]
    rfl
  rw [hrun, Session.close, End.leave, Exchange.finish]
  rcases hrecord : z.session.exchange.record z.session.exchange.closing with ⟨crash, x⟩
  have hstep : (z.record e).step .release = release (crash.or e.message?)
      { z with
        session := { z.session with exchange := x }
        leaving := some (.releasing (crash.or e.message?)) } := by
    rw [record, hrecord]
    rfl
  rw [hstep]
  cases crash with
  | some message => exact ⟨some message, rfl, by cases e <;> rfl⟩
  | none => cases e <;> exact ⟨_, rfl, rfl⟩

theorem poll_share (z : Race ℓ) {r : Rest} (hrest : z.session.rest? = some r) :
    (r.poll (z.share [])).1 = (r.poll z.session.exchange).1 ∧
      z.take (r.poll (z.share [])).2 =
        { z with
          session := { z.session with exchange := (r.poll z.session.exchange).2 }
          trace := z.trace ++
            (Streamed.run (z.session.operations.map .operate) z.session.stream).1 } := by
  let x := z.session.exchange
  have halong : Shared.along z.trace ({} : History x.observer.inner) =
      { stream := x.observer.inner, trace := z.trace } :=
    congrArg (Shared.mk _ _ · _) (List.append_nil _)
  have hshare : z.share [] = x.remember.map (Shared.along z.trace) :=
    congrArg (fun t => x.map fun _ => t) halong.symm
  have hreal : r.poll x = (r.poll x.remember).map id (.map History.now) :=
    r.poll_map History.carries_now x.remember
  have hops : z.session.operations = r.operations x := by
    rw [Session.operations, hrest]
    rfl
  have hshared : r.poll (z.share []) =
      (r.poll x.remember).map id (.map (Shared.along z.trace)) := by
    rw [hshare]
    exact r.poll_map (Shared.carries_along z.trace) x.remember
  rw [hshared, hops, show z.session.exchange = x from rfl, hreal]
  generalize hrest' : r.poll x.remember = polled
  refine ⟨rfl, ?_⟩
  have hleft : (z.session.aborted || (polled.2.map (Shared.along z.trace)).observer.inner.left) =
    z.session.aborted := Bool.or_false _
  have hpast : r.operations x = polled.2.observer.inner.past := by
    rw [Rest.operations, hrest']
  rw [take, hpast]
  exact congrArg (fun aborted => (⟨⟨_, _, _, aborted⟩, _, _⟩ : Race ℓ)) hleft

theorem run_idle {z : Race ℓ} (hz : z.leaving = none) : z.run [.record, .release] = z := by
  rw [run, List.foldl_cons, step, hz, List.foldl_cons, step, hz]
  rfl

theorem close_exchange (e : End) (x y : Exchange Streamed ℓ) (s : Session ℓ) :
    Session.close e x { s with exchange := y } = Session.close e x s := by
  unfold Session.close
  split <;> rfl

theorem run_poll_of_rest {z : Race ℓ} (hz : z.leaving = none) {r : Rest}
    (hrest : z.session.rest? = some r) :
    (z.pollTask []).run [.record, .release] =
      { session := z.session.react .poll, trace := z.trace ++ z.session.happens .poll } := by
  obtain ⟨hstop, htake⟩ := z.poll_share hrest
  have hworking : ∀ crash, z.session.task ≠ .ended crash := by
    intro crash hcrash
    rw [Session.rest?, hcrash, ite_self] at hrest
    cases hrest
  have hreact : z.session.react .poll = (Session.settle (r.poll z.session.exchange) z.session).2 :=
    congrArg Prod.snd (Session.pollTask_of_rest hrest)
  have hpollTask : z.pollTask [] = settle (r.poll (z.share [])) z := by rw [pollTask, hrest]
  rw [hpollTask, Session.happens, show z.session.pollTask.2 = z.session.react .poll from rfl,
    hreact]
  rcases hshared : r.poll (z.share []) with ⟨stop, x⟩
  rcases hpoll : r.poll z.session.exchange with ⟨stop', y⟩
  rw [hshared, hpoll] at hstop htake
  cases hstop
  have hend : ∀ e : End,
    ({ z.take x with leaving := some (.recording e) } : Race ℓ).run [.record, .release] =
      { session := Session.close e y z.session
        trace :=
          z.trace ++ ((Streamed.run (z.session.operations.map .operate) z.session.stream).1 ++
          z.session.task.parting (Session.close e y z.session).task) } := by
    intro e
    rw [htake]
    obtain ⟨crash, hended, hrun⟩ := run_leaving (e := e) (z := { z with
      session := { z.session with exchange := y }
      leaving := some (.recording e)
      trace :=
        z.trace ++ (Streamed.run (z.session.operations.map .operate) z.session.stream).1 }) rfl
    rw [close_exchange] at hended hrun
    refine hrun.trans ?_
    rw [hended, Task.parting_ended hworking, List.append_assoc]
  cases stop with
  | returned => exact hend .returned
  | crashed message => exact hend (.crashed message)
  | waiting again rest =>
    refine (run_idle ?_).trans ?_
    · exact hz
    · rw [Session.settle, Task.parting_running, List.append_nil]
      change ({ z.take x with session := _ } : Race ℓ) = _
      rw [htake]
      obtain ⟨session, leaving, trace⟩ := z
      cases hz
      rfl

theorem run_poll_of_no_rest {z : Race ℓ} (hz : z.leaving = none) (hrest : z.session.rest? = none) :
    (z.pollTask []).run [.record, .release] =
      { session := z.session.react .poll, trace := z.trace ++ z.session.happens .poll } := by
  have hhappens : z.session.happens .poll =
      z.session.task.parting (z.session.react .poll).task := by
    rw [Session.happens, Session.operations, hrest]
    rfl
  have hstill : z.session.react .poll = z.session → z.run [.record, .release] =
      { session := z.session.react .poll, trace := z.trace ++ z.session.happens .poll } := by
    intro hself
    rw [run_idle hz, hhappens, hself, Task.parting_self, List.append_nil]
    obtain ⟨session, leaving, trace⟩ := z
    cases hz
    rfl
  rw [pollTask, hrest]
  cases ha : z.session.aborted with
  | false => exact hstill (Session.poll_of_no_rest ha hrest).1
  | true =>
    have hcancel : z.session.react .poll = z.session.cancel := by
      rw [Session.react, Session.pollTask, if_pos ha]
    cases ht : z.session.task with
    | unspawned | ended =>
      refine hstill (hcancel.trans ?_)
      rw [Session.cancel, ht]
    | queued =>
      have hended : z.session.cancel.task = .ended none := by rw [Session.cancel, ht]
      have hidle := run_idle (z := { z with
        session := z.session.cancel
        trace := z.trace ++ [.released false] }) hz
      refine hidle.trans ?_
      rw [hhappens, hcancel, hended, ht, hz]
      rfl
    | running rest =>
      obtain ⟨crash, hended, hrun⟩ :=
        run_leaving (e := .cancelled) (z := { z with leaving := some (.recording .cancelled) }) rfl
      have hclose : z.session.cancel = Session.close .cancelled z.session.exchange z.session := by
        rw [Session.cancel, ht]
      refine hrun.trans ?_
      rw [hhappens, hcancel, hclose, hended, ht]
      rfl

theorem run_poll {z : Race ℓ} (hz : z.leaving = none) :
    z.run Event.poll.steps =
      { session := z.session.react .poll, trace := z.trace ++ z.session.happens .poll } := by
  have hrun : z.run Event.poll.steps = (z.pollTask []).run [.record, .release] := by
    rw [Event.steps, run, List.foldl_cons, step, hz]
    rfl
  rw [hrun]
  cases hrest : z.session.rest? with
  | none => exact run_poll_of_no_rest hz hrest
  | some r => exact run_poll_of_rest hz hrest

theorem run_steps {z : Race ℓ} (hz : z.leaving = none) (e : Event ℓ) :
    z.run e.steps = { session := z.session.react e, trace := z.trace ++ z.session.happens e } := by
  obtain ⟨session, leaving, trace⟩ := z
  cases hz
  cases e with
  | poll => exact run_poll rfl
  | head | body | drop => rfl
  | turn | elsewhere =>
    rw [Session.happens, List.append_nil]
    rfl

theorem run_events {z : Race ℓ} (hz : z.leaving = none) (es : List (Event ℓ)) :
    z.run (es.flatMap Event.steps) =
      { session := z.session.run es, trace := z.trace ++ z.session.trace es } := by
  induction es generalizing z with
  | nil =>
    obtain ⟨session, leaving, trace⟩ := z
    cases hz
    rw [Session.trace, List.append_nil]
    rfl
  | cons e es ih =>
    rw [List.flatMap_cons, run, List.foldl_append]
    change run (run z e.steps) _ = _
    rw [run_steps hz, ih rfl, List.append_assoc]
    rfl

end Race

end AccessTrail
