import AccessTrail.Log.Memory
import AccessTrail.Proofs.Serving
import AccessTrail.Proofs.Session.Stream
import AccessTrail.Proofs.Transport.Head

/-!
What a client that stays is answered when the handler comes to its end: one head. It is the one that
the handler settled first. Else it says that all is well, with the headers as they were edited, or,
after a crash, no more than that the server failed; and the body is empty.
-/

namespace AccessTrail

variable {ℓ : Type}

def End.message? : End → Option String
  | crashed message => some message
  | returned | cancelled => none

def Task.crashed? : Task → Option Bool
  | ended crash => some crash.isSome
  | unspawned | queued | running _ => none

theorem Task.ended_of_crashed? {t : Task} {crashed : Bool} (h : t.crashed? = some crashed) :
    ∃ crash, t = .ended crash := by
  cases t with
  | ended crash => exact ⟨crash, rfl⟩
  | unspawned | queued | running => cases h

namespace Streamed

def Happening.operation? : Happening → Option Operation
  | operated op _ => some op
  | released _ | head _ | body _ | dropped => none

def performed (hs : List Happening) : List Operation := hs.filterMap Happening.operation?

theorem performed_append (hs hs' : List Happening) :
    performed (hs ++ hs') = performed hs ++ performed hs' := List.filterMap_append

theorem performed_operations (ops : List Operation) (s : Streamed) :
    performed (run (ops.map .operate) s).1 = ops := by
  induction ops generalizing s with
  | nil => rfl
  | cons op ops ih => exact congrArg (op :: ·) (ih _)

theorem heads_append (hs hs' : List Happening) : heads (hs ++ hs') = heads hs ++ heads hs' :=
  List.filterMap_append

theorem received_append (hs hs' : List Happening) :
    received (hs ++ hs') = received hs ++ received hs' := List.filterMap_append

theorem quiet_operations (ops : List Operation) (s : Streamed) :
    heads (run (ops.map .operate) s).1 = [] ∧ received (run (ops.map .operate) s).1 = [] := by
  induction ops generalizing s with
  | nil => exact ⟨rfl, rfl⟩
  | cons op ops ih =>
    obtain ⟨hhead, hreceived⟩ : (on (.operate op) s).1.mark.head = none ∧
        (on (.operate op) s).1.mark.received = none := by
      simp only [on, Happening.mark]
      split <;> simp_all
    rw [List.map_cons, run, heads, received, List.filterMap_cons, List.filterMap_cons, hhead,
      hreceived]
    exact ih _

theorem kept_operations (ops : List Operation) (s : Streamed) :
    (Operation.run ops s).2.released = s.released ∧ (Operation.run ops s).2.reader = s.reader := by
  refine Operation.run_keeps (P := fun t : Streamed => t.released = s.released ∧
    t.reader = s.reader)
    (fun op t ht => ?_) ops ⟨rfl, rfl⟩
  have hop := kept_operate op t
  exact ⟨hop.1.trans ht.1, hop.2.trans ht.2⟩

def settled (hs : List Happening) : Option Http.Head := Operation.head? {} (performed hs)

def edited (hs : List Happening) : Http.Headers := Operation.edited {} (performed hs)

theorem settled_append (hs hs' : List Happening) :
    settled (hs ++ hs') = (settled hs).or (Operation.head? (edited hs) (performed hs')) := by
  rw [settled, performed_append, Operation.head?_append]
  rfl

theorem edited_append (hs hs' : List Happening) :
    edited (hs ++ hs') = Operation.edited (edited hs) (performed hs') := by
  rw [edited, performed_append, Operation.edited_append]
  rfl

theorem settled_concat {h : Happening} (hh : h.operation? = none) (hs : List Happening) :
    settled (hs ++ [h]) = settled hs ∧ edited (hs ++ [h]) = edited hs := by
  have hnone : performed [h] = [] := by rw [performed, List.filterMap_cons, hh]; rfl
  rw [settled_append, edited_append, hnone]
  exact ⟨Option.or_none, rfl⟩

def partingHead (headers : Http.Headers) : (crashed? : Option Bool) → Option Http.Head
  | some false => some ⟨.ok, headers⟩
  | none | some true => none

inductive Asked (hs : List Happening) (s : Streamed) : Prop
  | waits : s.reader = .awaiting → heads hs = [] → Asked hs s
  | told {h : Http.Head} : s.reader = .reading ∨ s.reader = .bodiless → s.head = some h →
    heads hs = [h] → Asked hs s
  | refused : s.reader = .bodiless → s.head = none → s.released = true →
    heads hs = [Session.bareError] → Asked hs s

inductive Takes (s : Streamed) : HeadAnswer × Streamed → Prop
  | unexpected : s.reader ≠ .awaiting → Takes s (.unexpected, s)
  | waiting : s.reader = .awaiting → s.head = none → s.released = false → Takes s (.waiting, s)
  | lost : s.reader = .awaiting → s.head = none → s.released = true →
    Takes s (.lost, { s.hangUp with reader := .gone })
  | head {h} : s.reader = .awaiting → s.head = some h → h.status ≠ .switchingProtocols →
    Takes s (.head h, { s with reader := .reading })
  | switch {h} : s.reader = .awaiting → s.head = some h → h.status = .switchingProtocols →
    Takes s (.head h, { s.hangUp with reader := .bodiless })

theorem takes (s : Streamed) : Takes s s.takeHead := by
  unfold takeHead
  split
  next hr hhead =>
    split
    next hstatus => exact .switch hr hhead hstatus
    next hstatus => exact .head hr hhead hstatus
  next hr hhead =>
    split
    next hreleased => exact .lost hr hhead hreleased
    next hreleased => exact .waiting hr hhead (Bool.eq_false_of_not_eq_true hreleased)
  next hsome hnone =>
    refine .unexpected fun hr => ?_
    cases hhead : s.head with
    | some h => exact hsome h hr hhead
    | none => exact hnone hr hhead

/-- What happened so far, the writer having crashed or not if it has gone, has left the stream as it
is. -/
structure Answering (hs : List Happening) (crashed? : Option Bool) (s : Streamed) : Prop where
  released : s.released = crashed?.isSome
  head : s.head = (settled hs).or (partingHead (edited hs) crashed?)
  headers : s.head = none → s.headers = edited hs
  queue : settled hs = none → s.queue = []
  asked : Asked hs s

namespace Answering

variable {hs : List Happening} {crashed? : Option Bool} {s : Streamed}

theorem operations (h : Answering hs none s) (ops : List Operation) :
    Answering (hs ++ (run (ops.map .operate) s).1) none (run (ops.map .operate) s).2 := by
  obtain ⟨hhead, hrest⟩ := head_operations ops s
  obtain ⟨hreleased, hreader⟩ := kept_operations ops s
  have hsettled : s.head = settled hs := h.head.trans (Option.or_none)
  have hlaw : (Operation.run ops s).2.head = (settled hs).or (Operation.head? (edited hs) ops) := by
    rw [hhead, ← hsettled]
    cases hs : s.head with
    | some h => rfl
    | none => rw [h.headers hs]
  have hearly : (Operation.run ops s).2.head = none → s.head = none := fun hnone => by
    rw [hhead] at hnone
    exact (Option.or_eq_none_iff.1 hnone).1
  rw [run_operations]
  constructor
  · exact hreleased.trans h.released
  · rw [settled_append, performed_operations, hlaw]
    exact Option.or_none.symm
  · intro hnone
    rw [(hrest hnone).1, edited_append, performed_operations, h.headers (hearly hnone)]
  · intro hnone
    rw [settled_append, performed_operations, ← hlaw] at hnone
    rw [(hrest hnone).2]
    exact h.queue (hsettled.symm.trans (hearly hnone))
  · have hheads : heads (hs ++ (run (ops.map .operate) s).1) = heads hs := by
      rw [heads_append, (quiet_operations ops s).1, List.append_nil]
    cases h.asked with
    | waits hr hh => exact .waits (hreader.trans hr) (hheads.trans hh)
    | told hr hs hh =>
      refine .told (by rwa [hreader]) ?_ (hheads.trans hh)
      rw [hhead, hs]
      rfl
    | refused _ _ hr => cases hr.symm.trans h.released

theorem heads_released (hs : List Happening) (crashed : Bool) :
    heads (hs ++ [.released crashed]) = heads hs := by
  simp [Happening.mark]

theorem release_settled (h : Answering hs none s) {first : Http.Head} (hhead : s.head = some first)
    (crashed : Bool) :
    Answering (hs ++ [.released crashed]) (some crashed) (Transport.release crashed s) := by
  obtain ⟨hquiet, -⟩ := settled_concat (h := .released crashed) rfl hs
  have hheads := heads_released hs crashed
  have hpast : settled hs = some first := (h.head.trans Option.or_none).symm.trans hhead
  obtain ⟨q, hrelease⟩ : ∃ q, Transport.release crashed s =
    { s with queue := q, released := true } := by
    simp only [Transport.release, finish]
    split
    next hnone => cases hhead.symm.trans hnone
    · split
      · exact ⟨s.queue, rfl⟩
      · exact ⟨s.queue ++ [.broken], rfl⟩
    all_goals exact ⟨s.queue, rfl⟩
  rw [hrelease]
  refine ⟨rfl, ?_, fun hnone => ?_, fun hnone => ?_, ?_⟩
  · rw [hquiet, hpast]
    exact hhead
  · cases hhead.symm.trans hnone
  · cases hpast.symm.trans (hquiet.symm.trans hnone)
  · cases h.asked with
    | waits hr hh => exact .waits hr (hheads.trans hh)
    | told hr hs hh => exact .told hr hs (hheads.trans hh)
    | refused _ hs => cases hs.symm.trans hhead

theorem release_unsettled (h : Answering hs none s) (hhead : s.head = none) (crashed : Bool) :
    Answering (hs ++ [.released crashed]) (some crashed) (Transport.release crashed s) := by
  obtain ⟨hquiet, hsame⟩ := settled_concat (h := .released crashed) rfl hs
  have hpast : settled hs = none := (h.head.trans Option.or_none).symm.trans hhead
  have hheaders := h.headers hhead
  obtain ⟨hwaits, hnone⟩ : s.reader = .awaiting ∧ heads hs = [] := by
    cases h.asked with
    | waits hr hh => exact ⟨hr, hh⟩
    | told _ hs => cases hs.symm.trans hhead
    | refused _ _ hr => cases hr.symm.trans h.released
  have hasked : Asked (hs ++ [.released crashed]) (Transport.release crashed s) := by
    refine .waits ?_ ((heads_released hs crashed).trans hnone)
    cases crashed <;> simp [Transport.release, finish, commit, hhead, hwaits]
  cases crashed with
  | false =>
    have hrelease : Transport.release false s =
        { s with head := some ⟨.ok, s.headers⟩, headers := {}, released := true } := by
      simp [Transport.release, finish, commit, hhead]
    rw [hrelease] at hasked ⊢
    refine ⟨rfl, ?_, (fun hhead => by cases hhead), fun _ => h.queue hpast, hasked⟩
    rw [hquiet, hsame, hpast, ← hheaders]
    rfl
  | true =>
    have hrelease : Transport.release true s = { s with released := true } := by
      simp [Transport.release, finish, hhead]
    rw [hrelease] at hasked ⊢
    refine ⟨rfl, ?_, fun _ => hheaders.trans hsame.symm, fun _ => h.queue hpast, hasked⟩
    rw [hquiet, hpast]
    exact hhead

theorem release (h : Answering hs none s) (crashed : Bool) :
    Answering (hs ++ [.released crashed]) (some crashed) (Transport.release crashed s) := by
  cases hhead : s.head with
  | some first => exact h.release_settled hhead crashed
  | none => exact h.release_unsettled hhead crashed

theorem idle (h : Answering hs crashed? s) {a : Happening} (ha : a.operation? = none)
    (hm : a.mark.head = none) : Answering (hs ++ [a]) crashed? s := by
  obtain ⟨hquiet, hsame⟩ := settled_concat ha hs
  have hheads : heads (hs ++ [a]) = heads hs := by
    rw [heads_concat, hm]
    exact List.append_nil _
  refine ⟨h.released, ?_, fun hnone => (h.headers hnone).trans hsame.symm,
    fun hnone => h.queue (hquiet.symm.trans hnone), ?_⟩
  · rw [hquiet, hsame]
    exact h.head
  · cases h.asked with
    | waits hr hh => exact .waits hr (hheads.trans hh)
    | told hr hs hh => exact .told hr hs (hheads.trans hh)
    | refused hr hs hreleased hh => exact .refused hr hs hreleased (hheads.trans hh)

theorem shorten (h : Answering hs crashed? s) (queue : List Part) (hq : s.queue = [] → queue = [])
    (closed : Bool) : Answering hs crashed? { s with queue, closed } where
  released := h.released
  head := h.head
  headers := h.headers
  queue hnone := hq (h.queue hnone)
  asked := by
    cases h.asked with
    | waits hr hh => exact .waits hr hh
    | told hr hs hh => exact .told hr hs hh
    | refused hr hs hreleased hh => exact .refused hr hs hreleased hh

theorem takeBody (h : Answering hs crashed? s) :
    Answering (hs ++ [.body s.takeBody.1]) crashed? s.takeBody.2 := by
  have hidle : Answering (hs ++ [.body s.takeBody.1]) crashed? s :=
    h.idle rfl (by cases s.takeBody.1 <;> rfl)
  generalize hs ++ [.body s.takeBody.1] = hs at hidle
  unfold Streamed.takeBody
  split
  next hq => exact hidle.shorten _ (fun h => by cases hq.symm.trans h) s.closed
  next hq => exact hidle.shorten _ (fun h => by cases hq.symm.trans h) s.closed
  all_goals exact hidle

theorem answer (h : Answering hs crashed? s) {first : Http.Head} {reader : Reader}
    (hwaits : s.reader = .awaiting)
    (hasked : ∀ hs', heads hs' = [first] → Asked hs' { s with reader }) :
    Answering (hs ++ [.head (.head first)]) crashed? { s with reader } := by
  obtain ⟨hquiet, hsame⟩ := settled_concat (h := .head (.head first)) rfl hs
  have hheads : heads (hs ++ [.head (.head first)]) = [first] := by
    rw [heads_concat]
    cases h.asked with
    | waits _ hh => rw [hh]; rfl
    | told hr => rcases hr with hr | hr <;> cases hwaits.symm.trans hr
    | refused hr => cases hwaits.symm.trans hr
  refine ⟨h.released, ?_, fun hnone => (h.headers hnone).trans hsame.symm,
    fun hnone => h.queue (hquiet.symm.trans hnone), hasked _ hheads⟩
  rw [hquiet, hsame]
  exact h.head

theorem heads_of_head (h : Answering hs crashed? s) (hasked : heads hs ≠ []) {first : Http.Head}
    (hhead : s.head = some first) : heads hs = [first] := by
  cases h.asked with
  | waits _ hh => exact absurd hh hasked
  | told _ hfirst hh => rwa [hhead.symm.trans hfirst |> Option.some.inj]
  | refused _ hnone => cases hhead.symm.trans hnone

theorem heads_of_ended {crashed : Bool} (h : Answering hs (some crashed) s)
    (hasked : heads hs ≠ []) :
    heads hs = [(settled hs).getD (if crashed then Session.bareError else ⟨.ok, edited hs⟩)] := by
  have hhead := h.head
  cases h.asked with
  | waits _ hh => exact absurd hh hasked
  | told _ hfirst hh =>
    rw [hh]
    rw [hfirst] at hhead
    cases hsettled : settled hs with
    | some _ => rw [hsettled] at hhead; cases hhead; rfl
    | none =>
      rw [hsettled] at hhead
      cases crashed with
      | false => cases hhead; rfl
      | true => cases hhead
  | refused _ hnone _ hh =>
    rw [hh]
    rw [hnone] at hhead
    obtain ⟨hsettled, hparting⟩ := Option.or_eq_none_iff.1 hhead.symm
    rw [hsettled]
    cases crashed with
    | false => cases hparting
    | true => rfl

theorem body_of_unsettled {crashed : Bool} (h : Answering hs (some crashed) s)
    (hasked : heads hs ≠ []) (hnone : settled hs = none) : s.takeBody.1 = .finished := by
  have hqueue := h.queue hnone
  have hbodiless : s.reader = .bodiless → s.takeBody.1 = .finished := fun hr => by
    rw [Streamed.takeBody, hr]
  cases h.asked with
  | waits _ hh => exact absurd hh hasked
  | refused hr => exact hbodiless hr
  | told hr =>
    rcases hr with hr | hr
    · rw [Streamed.takeBody, hr, hqueue, h.released, Option.isSome_some, Bool.or_true]
      rfl
    · exact hbodiless hr

theorem crashed_of_lost (h : Answering hs crashed? s) (hlost : s.takeHead.1 = .lost) :
    crashed? = some true ∧ settled hs = none := by
  have htakes := s.takes
  have hhead := h.head
  have hreleased := h.released
  generalize s.takeHead = taken at htakes hlost
  cases htakes with
  | lost _ hnone hgone =>
    rw [hnone] at hhead
    obtain ⟨hsettled, hparting⟩ := Option.or_eq_none_iff.1 hhead.symm
    rcases crashed? with _ | _ | _
    · cases hgone.symm.trans hreleased
    · cases hparting
    · exact ⟨rfl, hsettled⟩
  | unexpected | waiting | head | switch => cases hlost

end Answering

end Streamed

namespace Session

theorem noteCrash_stream (s : Session ℓ) : s.noteCrash.stream = s.stream := by
  unfold noteCrash
  split <;> rfl

theorem noteCrash_aborted (s : Session ℓ) : s.noteCrash.aborted = s.aborted := by
  unfold noteCrash
  split <;> rfl

theorem aborted_takeHead (s : Session ℓ) : s.takeHead.2.aborted = s.aborted := by
  rw [takeHead]
  split
  · rw [noteCrash_aborted]
    exact s.spawn_aborted
  · exact s.spawn_aborted

theorem crashed?_spawn (s : Session ℓ) : s.spawn.task.crashed? = s.task.crashed? := by
  unfold spawn
  split
  next h _ => rw [h]; rfl
  next => rfl

theorem answering_takeHead {hs : List Streamed.Happening} {s : Session ℓ}
    (h : Streamed.Answering hs s.task.crashed? s.stream) :
    Streamed.Answering (hs ++ [.head s.takeHead.1]) s.takeHead.2.task.crashed? s.takeHead.2.stream ∧
      (s.stream.released = true → s.takeHead.2.stream.reader ≠ .awaiting) := by
  have hstream : s.spawn.stream = s.stream := congrArg (·.observer.inner) s.spawn_exchange
  rw [← crashed?_spawn] at h
  rw [← hstream] at h ⊢
  rw [takeHead]
  generalize s.spawn = s at h ⊢
  have htakes := s.stream.takes
  generalize s.stream.takeHead = taken at htakes ⊢
  cases htakes with
  | unexpected hr => exact ⟨h.idle rfl rfl, fun _ => hr⟩
  | waiting _ _ hreleased => exact ⟨h.idle rfl rfl, fun hr => by cases hreleased.symm.trans hr⟩
  | lost hr hhead hreleased =>
    rw [noteCrash_task, noteCrash_stream]
    have hshort := h.shorten [] (fun _ => rfl) true
    exact ⟨hshort.answer hr fun _ hh => .refused rfl hhead hreleased hh,
      fun _ hwaits => by cases hwaits⟩
  | head hr hhead =>
    exact ⟨h.answer hr fun _ hh => .told (.inl rfl) hhead hh, fun _ hwaits => by cases hwaits⟩
  | switch hr hhead =>
    have hshort := h.shorten [] (fun _ => rfl) true
    exact ⟨hshort.answer hr fun _ hh => .told (.inr rfl) hhead hh, fun _ hwaits => by cases hwaits⟩

theorem crashed?_of_rest {s : Session ℓ} {r : Rest} (h : s.rest? = some r) :
    s.task.crashed? = none := by
  rw [rest?] at h
  split at h
  · cases h
  · cases ht : s.task with
    | unspawned | ended => rw [ht] at h; cases h
    | queued | running => rfl

variable [Log ℓ]

theorem crashed?_react {s : Session ℓ} {e : Event ℓ} (hpoll : e ≠ .poll) :
    (s.react e).task.crashed? = s.task.crashed? := by
  cases e with
  | poll => exact absurd rfl hpoll
  | head =>
    rw [react, takeHead]
    split
    · rw [noteCrash_task]
      exact s.crashed?_spawn
    · exact s.crashed?_spawn
  | body => rfl
  | drop =>
    rw [react, drop]
    split <;> rfl
  | turn p =>
    rw [react, turn]
    split
    next ht => rw [ht]; rfl
    next => rfl
  | elsewhere => rfl

theorem aborted_react {s : Session ℓ} (ha : s.aborted = false) {e : Event ℓ} (he : e ≠ .drop) :
    (s.react e).aborted = false := by
  cases e with
  | drop => exact absurd rfl he
  | head => exact (aborted_takeHead s).trans ha
  | body => exact ha
  | poll =>
    rw [react]
    cases hrest : s.rest? with
    | none => rwa [pollTask_of_no_rest hrest ha]
    | some r =>
      cases settles_pollTask hrest with
      | waits _ _ haborted => exact haborted.trans ha
      | ends _ _ haborted => exact haborted.trans ha
  | turn p =>
    rw [react, turn]
    split <;> exact ha
  | elsewhere => exact ha

theorem aborted_run {s : Session ℓ} (ha : s.aborted = false) {es : List (Event ℓ)}
    (hstay : .drop ∉ es) :
    (s.run es).aborted = false := by
  induction es generalizing s with
  | nil => exact ha
  | cons e es ih =>
    rw [List.mem_cons, not_or] at hstay
    exact ih (aborted_react ha (Ne.symm hstay.1)) hstay.2

theorem answering_poll {hs : List Streamed.Happening} {s : Session ℓ} (ha : s.aborted = false)
    (h : Streamed.Answering hs s.task.crashed? s.stream) :
    Streamed.Answering (hs ++ s.happens .poll) s.pollTask.2.task.crashed? s.pollTask.2.stream := by
  rw [happens]
  cases hrest : s.rest? with
  | none =>
    rw [pollTask_of_no_rest hrest ha, operations, hrest, Task.parting_self]
    exact (List.append_nil hs).symm ▸ h
  | some r =>
    have hworking := crashed?_of_rest hrest
    rw [hworking] at h
    have hops := h.operations s.operations
    cases settles_pollTask hrest with
    | waits ht hstream =>
      rw [ht, hstream, Task.parting_running, List.append_nil]
      exact hops
    | ends ht hstream =>
      have hparting := Task.parting_ended (t := s.task) fun crash hc => by
        rw [hc] at hworking
        cases hworking
      rw [ht, hstream, hparting, ← List.append_assoc]
      exact hops.release _

theorem answering_react {hs : List Streamed.Happening} {s : Session ℓ} (ha : s.aborted = false)
    (h : Streamed.Answering hs s.task.crashed? s.stream) {e : Event ℓ} (he : e ≠ .drop) :
    Streamed.Answering (hs ++ s.happens e) (s.react e).task.crashed? (s.react e).stream := by
  cases e with
  | drop => exact absurd rfl he
  | poll => exact answering_poll ha h
  | head => exact (answering_takeHead h).1
  | body => exact h.takeBody
  | turn p =>
    rw [crashed?_react (by simp), happens, List.append_nil, react, turn]
    split <;> exact h
  | elsewhere => exact (List.append_nil hs).symm ▸ h

theorem answering_run {hs : List Streamed.Happening} {s : Session ℓ} (ha : s.aborted = false)
    (h : Streamed.Answering hs s.task.crashed? s.stream) {es : List (Event ℓ)}
    (hstay : .drop ∉ es) :
    Streamed.Answering (hs ++ s.trace es) (s.run es).task.crashed? (s.run es).stream := by
  induction es generalizing hs s with
  | nil => exact (List.append_nil hs).symm ▸ h
  | cons e es ih =>
    rw [List.mem_cons, not_or] at hstay
    have he := Ne.symm hstay.1
    have hrun := ih (aborted_react ha he) (answering_react ha h he) hstay.2
    rwa [List.append_assoc] at hrun

theorem answering_start (handler : Handler) (q : Http.Request) (log : ℓ) (now : Clock)
    {es : List (Event ℓ)} (hstay : .drop ∉ es) :
    Streamed.Answering ((start handler q log now).trace es)
      ((start handler q log now).run es).task.crashed?
        ((start handler q log now).run es).stream := by
  have hstart : Streamed.Answering [] none (Streamed.forRequest q) :=
    ⟨rfl, rfl, fun _ => rfl, fun _ => rfl, .waits rfl rfl⟩
  exact answering_run (s := start handler q log now) rfl hstart hstay

/-- The handler comes to its end `e` in the poll that follows, and the client is still there. -/
structure Ends (s : Session ℓ) (before : List (Event ℓ)) (e : End) : Prop where
  stays : .drop ∉ before
  finished : e ≠ .cancelled
  ends : ∃ r, (s.run before).rest? = some r ∧ (r.poll (s.run before).exchange).1.ending = e

theorem task_close (hlog : Log.Returns ℓ) (e : End) (x : Exchange Streamed ℓ) (s : Session ℓ) :
    (close e x s).task = .ended e.message? := by
  have hleave := End.leave_fst hlog e x
  rcases hx : e.leave x with ⟨e', y⟩
  have he : e' = e := by rwa [hx] at hleave
  rw [close, hx, he]
  cases e <;> rfl

theorem Ends.task (hlog : Log.Returns ℓ) {s : Session ℓ} {before : List (Event ℓ)} {e : End}
    (h : Ends s before e) : (s.run (before ++ [.poll])).task = .ended e.message? := by
  obtain ⟨r, hr, he⟩ := h.ends
  rw [run_poll, pollTask_of_rest hr]
  rcases hp : r.poll (s.run before).exchange with ⟨_ | message | ⟨again, rest⟩, x⟩
  · rw [hp] at he
    subst he
    exact task_close hlog .returned x _
  · rw [hp] at he
    subst he
    exact task_close hlog (.crashed message) x _
  · rw [hp] at he
    exact absurd he.symm h.finished

theorem ends_of_poll {s : Session ℓ} {before : List (Event ℓ)} (hstay : .drop ∉ before)
    (ha : (s.run before).aborted = false) (hworking : (s.run before).task.crashed? = none)
    {crash : Option String} (h : (s.run before).pollTask.2.task = .ended crash) :
    ∃ e, Ends s before e := by
  cases hrest : (s.run before).rest? with
  | none =>
    rw [pollTask_of_no_rest hrest ha] at h
    rw [h] at hworking
    cases hworking
  | some r =>
    refine ⟨_, hstay, fun hwaits => ?_, r, hrest, rfl⟩
    rw [pollTask_of_rest hrest] at h
    rcases hp : r.poll (s.run before).exchange with ⟨_ | message | ⟨again, rest⟩, x⟩
    · rw [hp] at hwaits
      cases hwaits
    · rw [hp] at hwaits
      cases hwaits
    · rw [hp] at h
      cases h

theorem ends_of_ended {s : Session ℓ} (ha : s.aborted = false) (hworking : s.task.crashed? = none)
    {es : List (Event ℓ)} (hstay : .drop ∉ es) {crash : Option String}
    (h : (s.run es).task = .ended crash) :
    ∃ before after e, es = before ++ .poll :: after ∧ Ends s before e ∧
      (s.run before).pollTask.2.task = .ended crash := by
  induction es using List.reverseRecOn generalizing crash with
  | nil =>
    change s.task = _ at h
    rw [h] at hworking
    cases hworking
  | append_singleton es event ih =>
    rw [List.mem_append, List.mem_singleton, not_or] at hstay
    rw [run_append] at h
    change ((s.run es).react event).task = _ at h
    cases hes : (s.run es).task.crashed? with
    | some crashed =>
      obtain ⟨_, hended⟩ := Task.ended_of_crashed? hes
      cases (ended_react hended event).symm.trans h
      obtain ⟨before, after, e, rfl, he⟩ := ih hstay.1 hended
      exact ⟨before, after ++ [event], e, by simp, he⟩
    | none =>
      have hpoll : event = .poll := by
        by_contra hpoll
        have hkept := crashed?_react (s := s.run es) hpoll
        rw [h, hes] at hkept
        cases hkept
      subst hpoll
      obtain ⟨e, he⟩ := ends_of_poll hstay.1 (aborted_run ha hstay.1) hes h
      exact ⟨es, [], e, rfl, he, h⟩

theorem performed_of_ended {s : Session ℓ} {crash : Option String} (h : s.task = .ended crash)
    (es : List (Event ℓ)) : Streamed.performed (s.trace es) = [] := by
  induction es generalizing s with
  | nil => rfl
  | cons e es ih =>
    rw [trace, Streamed.performed_append, ih (ended_react h e), List.append_nil]
    cases e with
    | poll =>
      have hrest : s.rest? = none := by rw [rest?, h, ite_self]
      have hended : s.pollTask.2.task = .ended crash := ended_react h .poll
      rw [happens, operations, hrest, hended, h, Task.parting_self]
      rfl
    | head | body | drop | turn | elsewhere => rfl

theorem Ends.cut (hlog : Log.Returns ℓ) {s : Session ℓ} {before : List (Event ℓ)} {e : End}
    (h : Ends s before e) (after : List (Event ℓ)) :
    Streamed.performed (s.trace (before ++ .poll :: after)) =
        Streamed.performed (s.trace (before ++ [.poll])) ∧
      (s.run (before ++ .poll :: after)).task.crashed? = some e.isCrash := by
  have hended := h.task hlog
  rw [List.append_cons, trace_append, Streamed.performed_append, performed_of_ended hended,
    List.append_nil, run_append, ended_run hended]
  cases e <;> exact ⟨rfl, rfl⟩

theorem heads_of_released (handler : Handler) (q : Http.Request) (log : ℓ) (now : Clock)
    {es : List (Event ℓ)} (hstay : .drop ∉ es)
    (h : ((start handler q log now).run es).stream.released = true) (es' : List (Event ℓ)) :
    Streamed.heads ((start handler q log now).trace (es ++ .head :: es')) ≠ [] := by
  obtain ⟨hanswering, hasked⟩ := answering_takeHead (answering_start handler q log now hstay)
  rw [trace_append, trace, happens, ← List.append_assoc, Streamed.heads_append]
  refine List.append_ne_nil_of_left_ne_nil ?_ _
  cases hanswering.asked with
  | waits hr => exact absurd hr (hasked h)
  | told _ _ hh =>
    rw [hh]
    exact List.cons_ne_nil _ _
  | refused _ _ _ hh =>
    rw [hh]
    exact List.cons_ne_nil _ _

section

variable {handler : Handler} {q : Http.Request} {log : ℓ} {now : Clock}
  {before after : List (Event ℓ)} {e : End}

theorem Ends.answering (hlog : Log.Returns ℓ) (h : Ends (start handler q log now) before e)
    (hafter : .drop ∉ after) :
    let first := (start handler q log now).trace (before ++ [.poll])
    let all := (start handler q log now).trace (before ++ .poll :: after)
    Streamed.Answering all (some e.isCrash)
      ((start handler q log now).run (before ++ .poll :: after)).stream ∧
      Streamed.settled all = Streamed.settled first ∧
      Streamed.edited all = Streamed.edited first := by
  intro first all
  have hstay : .drop ∉ before ++ .poll :: after := by simp [h.stays, hafter]
  have hanswering := answering_start handler q log now hstay
  obtain ⟨hperformed, hcut⟩ := h.cut hlog after
  rw [hcut] at hanswering
  exact ⟨hanswering, congrArg (Operation.head? {}) hperformed,
    congrArg (Operation.edited {}) hperformed⟩

theorem Ends.asked (hlog : Log.Returns ℓ) (h : Ends (start handler q log now) before e)
    (hafter : .drop ∉ after) (es' : List (Event ℓ)) :
    Streamed.heads
      ((start handler q log now).trace (before ++ .poll :: (after ++ .head :: es'))) ≠ [] := by
  have hstay : .drop ∉ before ++ .poll :: after := by simp [h.stays, hafter]
  have hheads := heads_of_released handler q log now hstay (h.answering hlog hafter).1.released es'
  rwa [List.append_assoc] at hheads

theorem unsettled_of_lost (hlog : Log.Returns ℓ) {es : List (Event ℓ)} (hstay : .drop ∉ es)
    (hlost : ((start handler q log now).run es).stream.takeHead.1 = .lost) :
    ∃ before after message, es = before ++ .poll :: after ∧
      Ends (start handler q log now) before (.crashed message) ∧
      Streamed.settled ((start handler q log now).trace (before ++ [.poll])) = none := by
  have hanswering := answering_start handler q log now hstay
  obtain ⟨hcrashed, hnone⟩ := hanswering.crashed_of_lost hlost
  obtain ⟨_, hended⟩ := Task.ended_of_crashed? hcrashed
  obtain ⟨before, after, e, rfl, hends, -⟩ :=
    ends_of_ended (s := start handler q log now) rfl rfl hstay hended
  obtain ⟨hperformed, hcut⟩ := hends.cut hlog after
  have hcrash := hcut.symm.trans hcrashed
  cases e with
  | returned | cancelled => cases hcrash
  | crashed message =>
    refine ⟨before, after, message, rfl, hends, ?_⟩
    rwa [Streamed.settled, ← hperformed]

end

/-- What a client that stays is answered when the handler has come to its end `e`: one head, which
is the one the handler settled first; if there was none, the answer is empty. The head is lost only
to a crash. -/
theorem answered (hlog : Log.Returns ℓ) (handler : Handler) (q : Http.Request) (log : ℓ)
    (now : Clock) :
    let s := start handler q log now
    (∀ before after e, Ends s before e → .drop ∉ after →
      let first := s.trace (before ++ [.poll])
      let es := before ++ .poll :: (after ++ [.head])
      Streamed.heads (s.trace es) = [(Streamed.settled first).getD
        (if e.isCrash then ⟨⟨500, by decide, by decide⟩, {}⟩
        else ⟨⟨200, by decide, by decide⟩, Streamed.edited first⟩)] ∧
      (Streamed.settled first = none → ∀ es', .drop ∉ es' →
        (s.run (es ++ es')).takeBody.1 = .finished)) ∧
    ∀ es, .drop ∉ es → (s.run es).stream.takeHead.1 = .lost →
      ∃ before after message, es = before ++ .poll :: after ∧ Ends s before (.crashed message) ∧
        Streamed.settled (s.trace (before ++ [.poll])) = none := by
  intro s
  refine ⟨?_, fun es hstay hlost => unsettled_of_lost hlog hstay hlost⟩
  intro before after e hends hafter first es
  constructor
  · have hreads : .drop ∉ after ++ [.head] := by simp [hafter]
    obtain ⟨hanswering, hsettled, hedited⟩ := hends.answering hlog hreads
    rw [← hsettled, ← hedited]
    exact hanswering.heads_of_ended (hends.asked hlog hafter [])
  · intro hnone es' hes'
    have hreads : .drop ∉ after ++ .head :: es' := by simp [hafter, hes']
    obtain ⟨hanswering, hsettled, -⟩ := hends.answering hlog hreads
    have hsplit : es ++ es' = before ++ .poll :: (after ++ .head :: es') := by simp [es]
    rw [hsplit]
    exact hanswering.body_of_unsettled (hends.asked hlog hafter es') (hsettled.trans hnone)

theorem answered_of_crashes :
    let served := fun (p : Program) => start (fun _ => p) {} ({} : MemoryLog) ⟨"T", {}⟩
    let late := served (.step (.sendHead .badRequest) fun _ => .crash "boom")
    let early := served (.crash "boom")
    (Ends late [.head] (.crashed "boom") ∧
      Streamed.heads (late.trace [.head, .poll, .head]) = [⟨.badRequest, {}⟩]) ∧
    (Ends early [.head] (.crashed "boom") ∧
      Streamed.heads (early.trace [.head, .poll, .head]) = [⟨⟨500, by decide, by decide⟩, {}⟩] ∧
      (early.run [.head, .poll, .head]).takeBody.1 = .finished) ∧
    (early.run [.head, .poll]).stream.takeHead.1 = .lost ∧
      ∃ before after message, [.head, .poll] = before ++ .poll :: after ∧
        Ends early before (.crashed message) ∧
        Streamed.settled (early.trace (before ++ [.poll])) = none := by
  intro served late early
  have hlog : Log.Returns MemoryLog := fun _ _ _ => nofun
  have hlate : Ends late [.head] (.crashed "boom") := ⟨by simp, nofun, _, rfl, rfl⟩
  have hearly : Ends early [.head] (.crashed "boom") := ⟨by simp, nofun, _, rfl, rfl⟩
  have hlost : (early.run [.head, .poll]).stream.takeHead.1 = .lost := rfl
  have htold := (answered hlog _ {} {} ⟨"T", {}⟩).1 [.head] [] _ hlate (by simp)
  obtain ⟨hrefused, hempty⟩ := (answered hlog _ {} {} ⟨"T", {}⟩).1 [.head] [] _ hearly (by simp)
  exact ⟨⟨hlate, htold.1⟩, ⟨hearly, hrefused, hempty rfl [] (by simp)⟩, hlost,
    (answered hlog _ {} {} ⟨"T", {}⟩).2 [.head, .poll] (by simp) hlost⟩

end Session

end AccessTrail
