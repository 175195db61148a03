import AccessTrail.Proofs.Handler.History
import AccessTrail.Proofs.Session.Event
import AccessTrail.Proofs.Transport.Crashed

/-!
Sessions seen from their stream. As long as the client stays, a session is a run of the stream: a
poll of the task is some operations, and the end of the task lets the stream go.
-/

namespace AccessTrail

variable {ℓ : Type}

def Event.step? : Event ℓ → Option Streamed.Step
  | head => some .takeHead
  | body => some .takeBody
  | drop => some .dropReader
  | poll | turn _ | elsewhere .. => none

def Task.parting : Task → Task → List Streamed.Happening
  | unspawned, ended crash | queued, ended crash | running _, ended crash =>
    [.released crash.isSome]
  | _, _ => []

theorem Task.parting_self (t : Task) : t.parting t = [] := by
  cases t <;> rfl

theorem Task.parting_running (t : Task) (rest : Rest) : t.parting (.running rest) = [] := by
  cases t <;> rfl

theorem Task.parting_ended {t : Task} (h : ∀ crash, t ≠ .ended crash) (crash : Option String) :
    t.parting (.ended crash) = [.released crash.isSome] := by
  cases t with
  | ended crash => exact absurd rfl (h crash)
  | _ => rfl

namespace Session

theorem noteCrash_task (s : Session ℓ) : s.noteCrash.task = s.task := by
  unfold noteCrash
  split <;> rfl

theorem spawn_aborted (s : Session ℓ) : s.spawn.aborted = s.aborted := by
  unfold spawn
  split <;> rfl

theorem isReading_step? {es : List (Event ℓ)} (h : .drop ∉ es) :
    ∀ e ∈ es.filterMap Event.step?, e.isReading := by
  intro e he
  obtain ⟨event, hevent, hstep⟩ := List.mem_filterMap.1 he
  cases event with
  | head | body => cases hstep; rfl
  | drop => exact absurd hevent h
  | poll | turn | elsewhere => cases hstep

theorem filterMap_reads (es : List (Event ℓ)) (n : Nat) :
    List.filterMap Event.step? (es ++ .head :: List.replicate n .body) =
      es.filterMap Event.step? ++ .takeHead :: List.replicate n .takeBody := by
  have hbody :=
    List.filterMap_replicate_of_some (f := Event.step? (ℓ := ℓ)) (a := .body) (n := n) rfl
  rw [List.filterMap_append, ← hbody]
  rfl

structure Stays (s : Session ℓ) : Prop where
  aborted : s.aborted = false
  head : s.stream.released = true → s.stream.head.isSome

theorem takeHead_of_held {s : Session ℓ} (h : s.stream.takeHead.1 ≠ .lost) :
    s.takeHead = (s.stream.takeHead.1, setStream s.stream.takeHead.2 s.spawn) := by
  have hstream : s.spawn.stream = s.stream := by rw [stream, spawn_exchange, stream]
  rw [takeHead, hstream]
  split
  · next ht => exact absurd (congrArg Prod.fst ht) h
  · next answer t _ ht => rw [ht]

theorem Stays.takeHead {s : Session ℓ} (hs : s.Stays) :
    s.takeHead = (s.stream.takeHead.1, setStream s.stream.takeHead.2 s.spawn) := by
  refine takeHead_of_held ?_
  unfold Streamed.takeHead
  split
  · split <;> exact nofun
  · next hhead =>
    split
    · next hr =>
      have hsome := hs.head hr
      rw [hhead] at hsome
      cases hsome
    · exact nofun
  · exact nofun

variable [Log ℓ]

def rest? (s : Session ℓ) : Option Rest :=
  if s.aborted then none
  else
    match s.task with
    | .queued => some (.ready s.program)
    | .running rest => some rest
    | .unspawned | .ended _ => none

def operations (s : Session ℓ) : List Operation :=
  (s.rest?.map (·.operations s.exchange)).getD []

def happens (s : Session ℓ) : Event ℓ → List Streamed.Happening
  | .head => [.head s.takeHead.1]
  | .body => [.body s.takeBody.1]
  | .drop => [.dropped]
  | .poll =>
    (Streamed.run (s.operations.map .operate) s.stream).1 ++ s.task.parting s.pollTask.2.task
  | .turn _ | .elsewhere .. => []

def trace (s : Session ℓ) : List (Event ℓ) → List Streamed.Happening
  | [] => []
  | e :: es => s.happens e ++ (s.react e).trace es

theorem trace_append (s : Session ℓ) (es es' : List (Event ℓ)) :
    s.trace (es ++ es') = s.trace es ++ (s.run es).trace es' := by
  induction es generalizing s with
  | nil => rfl
  | cons e es ih => rw [List.cons_append, trace, ih, trace, List.append_assoc]; rfl

inductive Settles (s : Session ℓ) (t : Streamed) (s' : Session ℓ) : Prop
  | waits {rest : Rest} : s'.task = .running rest → s'.stream = t → s'.aborted = s.aborted →
    Settles s t s'
  | ends {crash : Option String} : s'.task = .ended crash →
    s'.stream = Transport.release crash.isSome t → s'.aborted = s.aborted → Settles s t s'

theorem settles_close (e : End) (x : Exchange Streamed ℓ) (s : Session ℓ) :
    Settles s x.observer.inner (close e x s) := by
  have hinner : (x.record x.closing).2.observer.inner = x.observer.inner :=
    Exchange.inner_record _ x
  unfold close End.leave Exchange.finish
  cases hx : x.record x.closing with
  | mk crash y =>
    rw [hx] at hinner
    cases e <;> cases crash <;>
      exact .ends rfl (congrArg (Transport.release (σ := Streamed) _) hinner) rfl

theorem settles_settle (stop : Stop × Exchange Streamed ℓ) (s : Session ℓ) :
    Settles s stop.2.observer.inner (settle stop s).2 := by
  rcases stop with ⟨_ | message | ⟨again, rest⟩, x⟩
  · exact settles_close .returned x s
  · exact settles_close (.crashed message) x s
  · exact .waits rfl rfl rfl

theorem pollTask_of_rest {s : Session ℓ} {r : Rest} (h : s.rest? = some r) :
    s.pollTask = settle (r.poll s.exchange) s := by
  cases ha : s.aborted with
  | true =>
    rw [rest?, if_pos ha] at h
    cases h
  | false =>
    rw [rest?, ha] at h
    rw [pollTask, ha]
    cases ht : s.task with
    | unspawned | ended => rw [ht] at h; cases h
    | queued | running => rw [ht] at h; cases h; rfl

theorem pollTask_of_no_rest {s : Session ℓ} (h : s.rest? = none) (ha : s.aborted = false) :
    s.pollTask.2 = s := by
  rw [rest?, ha] at h
  rw [pollTask, ha]
  cases ht : s.task with
  | unspawned => rfl
  | ended crash => rfl
  | queued => rw [ht] at h; cases h
  | running rest => rw [ht] at h; cases h

theorem settles_pollTask {s : Session ℓ} {r : Rest} (h : s.rest? = some r) :
    Settles s (Streamed.run (s.operations.map .operate) s.stream).2 s.pollTask.2 := by
  rw [pollTask_of_rest h, operations, h, Streamed.run_operations]
  change Settles s (Operation.run (r.operations s.exchange) s.exchange.observer.inner).2 _
  rw [← Rest.poll_operations]
  exact settles_settle _ s

theorem ended_react {s : Session ℓ} {crash : Option String} (h : s.task = .ended crash)
    (e : Event ℓ) :
    (s.react e).task = .ended crash := by
  cases e with
  | head =>
    rw [react, takeHead, spawn_of_spawned (by simp [h])]
    split
    · rw [noteCrash_task]
      exact h
    · exact h
  | body => exact h
  | drop =>
    rw [react, drop]
    split <;> exact h
  | poll =>
    rw [react, pollTask, cancel, h]
    split <;> exact h
  | turn p =>
    rw [react, turn, h]
    exact h
  | elsewhere => exact h

theorem ended_run {s : Session ℓ} {crash : Option String} (h : s.task = .ended crash)
    (es : List (Event ℓ)) : (s.run es).task = .ended crash := by
  induction es generalizing s with
  | nil => exact h
  | cons e es ih => exact ih (ended_react h e)

theorem Stays.react {s : Session ℓ} (hs : s.Stays) {e : Event ℓ} (hdrop : e ≠ .drop)
    (hpoll : e ≠ .poll) :
    Streamed.run e.step?.toList s.stream = (s.happens e, (s.react e).stream) ∧
      (s.react e).aborted = false := by
  cases e with
  | poll => exact absurd rfl hpoll
  | drop => exact absurd rfl hdrop
  | head =>
    rw [happens, Session.react, hs.takeHead]
    exact ⟨rfl, s.spawn_aborted.trans hs.aborted⟩
  | body => exact ⟨rfl, hs.aborted⟩
  | turn p =>
    rw [Session.react, turn]
    split <;> exact ⟨rfl, hs.aborted⟩
  | elsewhere log now => exact ⟨rfl, hs.aborted⟩

theorem working_react {s : Session ℓ} (ha : s.aborted = false) (hr : s.stream.released = false)
    {e : Event ℓ} (hdrop : e ≠ .drop) (hend : ∀ crash, (s.react e).task ≠ .ended crash) :
    (s.react e).aborted = false ∧ ∃ steps : List Streamed.Step,
      (∀ crashed, .release crashed ∉ steps) ∧
        Streamed.run steps s.stream = (s.happens e, (s.react e).stream) := by
  by_cases hpoll : e = .poll
  · subst hpoll
    cases hrest : s.rest? with
    | none =>
      have hself : s.pollTask.2 = s := pollTask_of_no_rest hrest ha
      refine ⟨by rw [react, hself, ha], [], by simp, ?_⟩
      rw [react, happens, operations, hrest, hself, Task.parting_self]
      rfl
    | some r =>
      cases settles_pollTask hrest with
      | ends ht => exact absurd ht (hend _)
      | waits ht hstream haborted =>
        refine ⟨haborted.trans ha, s.operations.map .operate, by simp, ?_⟩
        rw [react, happens, ht, hstream, Task.parting_running, List.append_nil]
  · have hs : Stays s := ⟨ha, fun h => by cases hr.symm.trans h⟩
    obtain ⟨hrun, haborted⟩ := hs.react hdrop hpoll
    refine ⟨haborted, _, ?_, hrun⟩
    intro crashed
    cases e <;> simp [Event.step?]

theorem run_of_working {s : Session ℓ} (ha : s.aborted = false) (hr : s.stream.released = false)
    {es : List (Event ℓ)} (hstay : .drop ∉ es) (hend : ∀ crash, (s.run es).task ≠ .ended crash) :
    (s.run es).aborted = false ∧ ∃ steps : List Streamed.Step,
      (∀ crashed, .release crashed ∉ steps) ∧
        Streamed.run steps s.stream = (s.trace es, (s.run es).stream) := by
  induction es generalizing s with
  | nil => exact ⟨ha, [], by simp, rfl⟩
  | cons e es ih =>
    rw [List.mem_cons, not_or] at hstay
    have hworking : ∀ crash, (s.react e).task ≠ .ended crash := fun crash h =>
      hend crash (ended_run h es)
    obtain ⟨haborted, steps, hsteps, hrun⟩ := working_react ha hr (Ne.symm hstay.1) hworking
    have hreleased : (s.react e).stream.released = false := by
      have h := Streamed.released_run hsteps s.stream
      rw [hrun] at h
      exact h.trans hr
    obtain ⟨hlast, steps', hsteps', hrun'⟩ := ih haborted hreleased hstay.2 hend
    refine ⟨hlast, steps ++ steps', ?_, ?_⟩
    · intro crashed h
      rcases List.mem_append.1 h with h | h
      · exact hsteps crashed h
      · exact hsteps' crashed h
    · rw [Streamed.run_append, hrun, hrun']
      rfl

theorem ended_step {s : Session ℓ} {crash : Option String} (ht : s.task = .ended crash)
    (hs : s.Stays) {e : Event ℓ} (hdrop : e ≠ .drop) :
    Streamed.run e.step?.toList s.stream = (s.happens e, (s.react e).stream) ∧
      (s.react e).aborted = false := by
  by_cases hpoll : e = .poll
  · subst hpoll
    have hrest : s.rest? = none := by rw [rest?, ht, ite_self]
    have hself : s.pollTask.2 = s := pollTask_of_no_rest hrest hs.aborted
    rw [react, happens, operations, hrest, hself, Task.parting_self]
    exact ⟨rfl, hs.aborted⟩
  · exact hs.react hdrop hpoll

theorem run_of_ended {s : Session ℓ} {crash : Option String} (ht : s.task = .ended crash)
    (ha : s.aborted = false) {h : Http.Head} (hhead : s.stream.head = some h) {es : List (Event ℓ)}
    (hstay : .drop ∉ es) :
    Streamed.run (es.filterMap Event.step?) s.stream = (s.trace es, (s.run es).stream) := by
  induction es generalizing s with
  | nil => rfl
  | cons e es ih =>
    rw [List.mem_cons, not_or] at hstay
    obtain ⟨hrun, haborted⟩ := ended_step ht ⟨ha, fun _ => by rw [hhead]; rfl⟩ (Ne.symm hstay.1)
    have hkept : (s.react e).stream.head = some h := by
      have h := Streamed.head_run hhead e.step?.toList
      rwa [hrun] at h
    have hsplit : (e :: es).filterMap Event.step? = e.step?.toList ++ es.filterMap Event.step? := by
      rw [List.filterMap_cons]
      cases e.step? <;> rfl
    rw [hsplit, Streamed.run_append, hrun, ih (ended_react ht e) haborted hkept hstay.2]
    rfl

theorem run_of_end {s : Session ℓ} (ha : s.aborted = false)
    (hworking : ∀ crash, s.task ≠ .ended crash) {crash : Option String}
    (hend : s.pollTask.2.task = .ended crash) :
    s.pollTask.2.aborted = false ∧
      Streamed.run (s.operations.map .operate ++ [.release crash.isSome]) s.stream =
        (s.happens .poll, s.pollTask.2.stream) := by
  cases hrest : s.rest? with
  | none =>
    rw [pollTask_of_no_rest hrest ha] at hend
    exact absurd hend (hworking _)
  | some r =>
    cases settles_pollTask hrest with
    | waits ht => cases hend.symm.trans ht
    | ends ht hstream haborted =>
      cases hend.symm.trans ht
      refine ⟨haborted.trans ha, ?_⟩
      rw [Streamed.run_append, happens, ht, hstream, Task.parting_ended hworking]
      rfl

theorem stream_of_end {s : Session ℓ} (ha : s.aborted = false)
    (hworking : ∀ crash, s.task ≠ .ended crash) {crash : Option String}
    (hend : s.pollTask.2.task = .ended crash) :
    s.pollTask.2.stream =
      Transport.release crash.isSome (Operation.run s.operations s.stream).2 := by
  have hrun := (run_of_end ha hworking hend).2
  rw [Streamed.run_append, Streamed.run_operations] at hrun
  exact (congrArg Prod.snd hrun).symm

theorem run_cut (handler : Handler) (q : Http.Request) (log : ℓ) (now : Clock)
    {before : List (Event ℓ)} (hstay : .drop ∉ before)
    (hworking : ∀ crash, ((start handler q log now).run before).task ≠ .ended crash)
    {crash : Option String}
    (hend : ((start handler q log now).run before).pollTask.2.task = .ended crash) {h : Http.Head}
    (hhead : ((start handler q log now).run before).pollTask.2.stream.head = some h) :
    let s := (start handler q log now).run before
    ∃ steps : List Streamed.Step, (∀ crashed, .release crashed ∉ steps) ∧
      (Streamed.run steps (.forRequest q)).2 = (Operation.run s.operations s.stream).2 ∧
      s.pollTask.2.stream = Transport.release crash.isSome (Streamed.run steps (.forRequest q)).2 ∧
      ∀ after, .drop ∉ after →
        let whole := Streamed.run (steps ++ .release crash.isSome :: after.filterMap Event.step?)
          (.forRequest q)
        (start handler q log now).trace (before ++ .poll :: after) = whole.1 ∧
          ((start handler q log now).run (before ++ .poll :: after)).stream = whole.2 := by
  intro s
  obtain ⟨haborted, steps, hsteps, hrun⟩ :=
    run_of_working (s := start handler q log now) rfl rfl hstay hworking
  obtain ⟨hpresent, hlast⟩ := run_of_end haborted hworking hend
  have hops : Streamed.run (steps ++ s.operations.map .operate) (.forRequest q) =
      ((start handler q log now).trace before ++
        (Streamed.run (s.operations.map .operate) s.stream).1,
        (Streamed.run (s.operations.map .operate) s.stream).2) := by
    change Streamed.run _ (start handler q log now).stream = _
    rw [Streamed.run_append, hrun]
  have hstop := stream_of_end haborted hworking hend
  refine ⟨steps ++ s.operations.map .operate, by simp [hsteps], ?_, ?_, fun after hafter => ?_⟩
  · rw [hops, Streamed.run_operations]
  · rw [hops, Streamed.run_operations]
    exact hstop
  · have hrest : Streamed.run (after.filterMap Event.step?) s.pollTask.2.stream =
        (s.pollTask.2.trace after, (s.pollTask.2.run after).stream) :=
      run_of_ended hend hpresent hhead hafter
    have hpoll : s.happens .poll =
        (Streamed.run (s.operations.map .operate) s.stream).1 ++ [.released crash.isSome] := by
      rw [Streamed.run_append] at hlast
      exact (congrArg Prod.fst hlast).symm
    have htrace : (start handler q log now).trace (before ++ .poll :: after) =
        (start handler q log now).trace before ++ (s.happens .poll ++ s.pollTask.2.trace after) :=
      trace_append _ before _
    have hlater : (start handler q log now).run (before ++ .poll :: after) =
        s.pollTask.2.run after :=
      run_append _ before _
    intro whole
    have hwhole : whole = _ := Streamed.run_append _ _ _
    rw [hops, Streamed.run, Streamed.on, Streamed.run_operations, ← hstop, hrest] at hwhole
    rw [htrace, hlater, hpoll, hwhole]
    simp

end Session

end AccessTrail
