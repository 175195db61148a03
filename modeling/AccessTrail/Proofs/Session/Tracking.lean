import AccessTrail.Proofs.Handler.Delay
import AccessTrail.Proofs.Session.Answer
import AccessTrail.Proofs.Session.Record
import AccessTrail.Proofs.Transport.Agreement

/-!
A session comes to the same as the serving of a response that is kept whole, as long as its handler
is plain, its client stays and the head comes with a body: what the task has done so far, the other
handler could have done, and then come to its end.
-/

namespace AccessTrail

variable {ℓ : Type}

/-- The client stays, and the handler does not give up what it waits for. What others do to the log,
they do not do for this exchange. -/
inductive Event.Quiet : Event (Journal ℓ) → Prop
  | head : Quiet .head
  | body : Quiet .body
  | poll : Quiet .poll
  | elsewhere (log : ℓ → ℓ) (now : Clock → Clock) : Quiet (.elsewhere (.lift log) now)

theorem Event.quiet_journaled {es : List (Event ℓ)} (hstay : .drop ∉ es)
    (hturn : ∀ p, .turn p ∉ es) :
    ∀ e ∈ es.map journaled, e.Quiet := by
  intro e he
  obtain ⟨event, hevent, rfl⟩ := List.mem_map.1 he
  cases event with
  | head => exact .head
  | body => exact .body
  | poll => exact .poll
  | elsewhere log now => exact .elsewhere log now
  | drop => exact absurd hevent hstay
  | turn p => exact absurd hevent (hturn p)

inductive Task.Leaves (p : Program) : Task → Rest → Prop
  | unspawned : Leaves p .unspawned (.ready p)
  | queued : Leaves p .queued (.ready p)
  | running {r} : Leaves p (.running r) r

theorem Task.Leaves.working {p : Program} {t : Task} {r : Rest} (h : t.Leaves p r) :
    t.crashed? = none := by
  cases h <;> rfl

namespace Session

theorem rest?_of_leaves {s : Session ℓ} {r : Rest} (hleaves : s.task.Leaves s.program r)
    (ha : s.aborted = false) (hspawned : s.task ≠ .unspawned) : s.rest? = some r := by
  rw [rest?, ha]
  cases ht : s.task with
  | unspawned => exact absurd ht hspawned
  | ended => rw [ht] at hleaves; cases hleaves
  | queued => rw [ht] at hleaves; cases hleaves; rfl
  | running => rw [ht] at hleaves; cases hleaves; rfl

/-- To go on with what is left of the handler, but where the response is kept whole, is to come to
`whole`. -/
structure Tracks [Log ℓ] (v : Http.Visit) (whole : Stop × Exchange Buffered (Journal ℓ))
    (told : Bytes) (s : Session (Journal ℓ)) : Prop where
  aborted : s.aborted = false
  reader : s.stream.reader = .awaiting ∨ s.stream.reader = .reading
  unspawned : s.task = .unspawned → s.stream.reader = .awaiting
  rest : ∃ r x, s.task.Leaves s.program r ∧ r.Plain ∧ r.poll x = whole ∧
    Exchange.Alike (Streamed.Matches told) v x s.exchange

variable [Log ℓ] {v : Http.Visit} {whole : Stop × Exchange Buffered (Journal ℓ)} {told : Bytes}
  {s s' : Session (Journal ℓ)}

theorem tracks_start {handler : Handler} {q : Http.Request} (hp : (handler q).Plain) (log : ℓ)
    (now : Clock) :
    Tracks q.visit ((Rest.ready (handler q)).poll (.enter q {} ⟨log, []⟩ now)) []
      (start handler q (⟨log, []⟩ : Journal ℓ) now) where
  aborted := rfl
  reader := .inl rfl
  unspawned _ := rfl
  rest := by
    refine ⟨.ready (handler q), .enter q {} ⟨log, []⟩ now, .unspawned, .ready hp, rfl, ?_⟩
    have hinner : Streamed.Matches [] {} (Streamed.forRequest q) := ⟨rfl, rfl, nofun, rfl, rfl⟩
    exact ⟨hinner, rfl, none, ⟨rfl, rfl, "", rfl⟩, ⟨rfl, rfl, "", rfl⟩⟩

namespace Tracks

theorem kept (h : Tracks v whole told s) :
    told.length ≤ whole.2.observer.inner.body.length ∧
      ∀ first, s.stream.head = some first → whole.2.observer.inner.status = some first.status := by
  obtain ⟨r, x, -, -, rfl, halike⟩ := h.rest
  rw [Rest.poll_operations]
  constructor
  · have hbody : told.length ≤ x.observer.inner.body.length := by
      rw [halike.inner.body, List.length_append]
      exact Nat.le_add_right _ _
    exact Operation.run_keeps (P := fun b : Buffered => told.length ≤ b.body.length)
      (fun op b hb => hb.trans (Buffered.body_on op b)) _ hbody
  · intro first hfirst
    have hstatus : x.observer.inner.status = some first.status := by
      rw [halike.inner.status]
      exact congrArg (Option.map _) hfirst
    exact Operation.run_keeps (P := fun b : Buffered => b.status = some first.status)
      (fun op _ hb => Buffered.status_kept hb op) _ hstatus

theorem agrees (h : Tracks v whole told s) : ∃ b, Streamed.Matches told b s.stream := by
  obtain ⟨_, x, _, _, _, halike⟩ := h.rest
  exact ⟨x.observer.inner, halike.inner⟩

theorem spawn (h : Tracks v whole told s) :
    Tracks v whole told s.spawn ∧ s.spawn.task ≠ .unspawned := by
  unfold Session.spawn
  split
  next ht hr =>
    obtain ⟨r, x, hleaves, hx⟩ := h.rest
    rw [ht] at hleaves
    cases hleaves
    exact ⟨⟨h.aborted, h.reader, fun _ => hr, _, x, .queued, hx⟩, nofun⟩
  next hspawned => exact ⟨h, fun ht => hspawned ht (h.unspawned ht)⟩

theorem setStream (h : Tracks v whole told s) {t : Streamed} {told' : Bytes}
    (hreader : t.reader = .awaiting ∨ t.reader = .reading)
    (hunspawned : s.task = .unspawned → t.reader = .awaiting)
    (ht : ∀ {b}, Streamed.Matches told b s.stream → Streamed.Matches told' b t) :
    Tracks v whole told' (s.setStream t) := by
  obtain ⟨r, x, hleaves, hplain, hpoll, halike⟩ := h.rest
  obtain ⟨e?, hx, hy⟩ := halike.books
  exact ⟨h.aborted, hreader, hunspawned, r, x, hleaves, hplain, hpoll, ht halike.inner,
    halike.tally, e?, hx, hy.unrecorded (.setInner t s.exchange)⟩

theorem takeHead (h : Tracks v whole told s)
    (hstatus : whole.2.observer.inner.response.status ≠ .switchingProtocols) :
    Tracks v whole told s.takeHead.2 ∧ s.takeHead.2.task ≠ .unspawned ∧
      (s.stream.Busy → s.takeHead.2.stream.Busy ∧ s.takeHead.2.stream.reader = .reading) := by
  obtain ⟨hspawn, htask⟩ := h.spawn
  have hstream : s.spawn.stream = s.stream := congrArg (·.observer.inner) s.spawn_exchange
  rw [Session.takeHead, ← hstream]
  generalize s.spawn = s at hspawn htask ⊢
  have htakes := s.stream.takes
  generalize s.stream.takeHead = taken at htakes ⊢
  cases htakes with
  | unexpected hr => exact ⟨hspawn, htask, fun hbusy => ⟨hbusy, hspawn.reader.resolve_left hr⟩⟩
  | waiting _ hnone =>
    refine ⟨hspawn, htask, fun hbusy => ?_⟩
    have hsome := hbusy.2
    rw [hnone] at hsome
    cases hsome
  | lost _ _ hreleased =>
    obtain ⟨_, hmatches⟩ := hspawn.agrees
    cases hmatches.released.symm.trans hreleased
  | head =>
    refine ⟨hspawn.setStream (.inr rfl) (fun ht => absurd ht htask) fun hm => ?_, htask,
      fun hbusy => ⟨hbusy, rfl⟩⟩
    exact ⟨hm.status, hm.body, hm.parts, hm.closed, hm.released⟩
  | switch _ hhead hswitch =>
    refine absurd ?_ hstatus
    rw [Buffered.response, hspawn.kept.2 _ hhead]
    exact hswitch

theorem takeBody (h : Tracks v whole told s) :
    Tracks v whole (told ++ (Streamed.received [.body s.takeBody.1]).flatten) s.takeBody.2 ∧
      (s.stream.Busy → s.stream.reader = .reading →
        (Streamed.received [.body s.takeBody.1]).flatten ≠ []) := by
  obtain ⟨_, hmatches⟩ := h.agrees
  have hidle : ∀ answer, s.stream.takeBody = (answer, s.stream) →
    Streamed.received [.body answer] = [] →
      Tracks v whole (told ++ (Streamed.received [.body s.takeBody.1]).flatten) s.takeBody.2 := by
    intro answer htaken hanswer
    rw [Session.takeBody, htaken, hanswer, List.flatten_nil, List.append_nil]
    exact h
  rcases h.reader with hr | hr
  · exact ⟨hidle _ (by rw [Streamed.takeBody, hr]) rfl,
      fun _ hreading => by cases hr.symm.trans hreading⟩
  · cases hq : s.stream.queue with
    | nil =>
      refine ⟨hidle .waiting ?_ rfl, fun hbusy => ?_⟩
      · rw [Streamed.takeBody, hr, hq, hmatches.closed, hmatches.released]
        rfl
      · have hfull := hbusy.1
        rw [Streamed.isFull, hq] at hfull
        cases hfull
    | cons part rest =>
      obtain ⟨c, bs, rfl⟩ := hmatches.parts part (hq ▸ List.mem_cons_self)
      rw [Session.takeBody, Streamed.Left.takeBody_cons hr hq]
      have hunread : s.stream.channel.unread = (c :: bs) :: rest.filterMap Part.chunk? := by
        rw [Streamed.Channel.unread, Streamed.channel, hq]
        rfl
      refine ⟨h.setStream (.inr hr) h.unspawned fun hm =>
        ⟨hm.status, ?_, ?_, hm.closed, hm.released⟩, fun _ _ => ?_⟩
      · rw [hm.body, hunread, List.flatten_cons, ← List.append_assoc]
        simp [Streamed.received, Streamed.Happening.mark, Part.answer, Streamed.Channel.unread,
          Streamed.channel]
      · exact fun part hpart => hm.parts part (hq ▸ List.mem_cons_of_mem _ hpart)
      · simp [Streamed.received, Streamed.Happening.mark, Part.answer]

end Tracks

structure Returns (v : Http.Visit) (whole : Stop × Exchange Buffered (Journal ℓ)) (told : Bytes)
    (s : Session (Journal ℓ)) (x : Exchange Buffered (Journal ℓ))
    (y : Exchange Streamed (Journal ℓ)) : Prop where
  whole : whole = (.returned, x)
  alike : Exchange.Alike (Streamed.Matches told) v x y
  inner : y.observer.inner = (Operation.run s.operations s.stream).2
  close : s.pollTask.2 = s.close .returned y

inductive Comes (v : Http.Visit) (whole : Stop × Exchange Buffered (Journal ℓ)) (told : Bytes)
    (s : Session (Journal ℓ)) : Prop
  | works : Tracks v whole told s.pollTask.2 → s.pollTask.2.stream.Busy → Comes v whole told s
  | returns {x y} : Returns v whole told s x y → Comes v whole told s
  | crashes {message y} : ¬Log.Returns (Journal ℓ) → s.pollTask.2 = close (.crashed message) y s →
    Comes v whole told s
  | abandons {message x} : ¬Log.Returns (Journal ℓ) → whole = (.crashed message, x) →
      Comes v whole told s

theorem Tracks.comes (h : Tracks v whole told s) {r : Rest} (hrest : s.rest? = some r) :
    Comes v whole told s := by
  obtain ⟨r', x, hleaves, hplain, hpoll, halike⟩ := h.rest
  have hspawned : s.task ≠ .unspawned := fun ht => by
    rw [rest?, h.aborted, ht] at hrest
    cases hrest
  cases (rest?_of_leaves hleaves h.aborted hspawned).symm.trans hrest
  have hfollows := Rest.follows_poll (Streamed.delays told) hplain halike
  have hinner : (r.poll s.exchange).2.observer.inner = (Operation.run s.operations s.stream).2 := by
    rw [operations, hrest]
    exact r.poll_operations s.exchange
  have hstop := congrArg Prod.snd (pollTask_of_rest hrest)
  rw [hpoll] at hfollows
  generalize r.poll s.exchange = stop at hfollows hinner hstop
  cases hfollows with
  | returned hx ha => exact .returns ⟨hx, ha, hinner, hstop⟩
  | waiting hplain ha hbusy hx =>
    have hreader := (Streamed.kept_operations s.operations s.stream).2
    rw [← hinner] at hreader
    refine .works ?_ ?_
    · rw [hstop]
      exact ⟨h.aborted, hreader.symm ▸ h.reader, (fun ht => by cases ht), _, _, .running, hplain,
        hx, ha⟩
    · rw [hstop]
      exact hbusy
  | crashed hlog => exact .crashes hlog hstop
  | abandoned hlog hx => exact .abandons hlog hx

theorem received_poll (s : Session ℓ) : Streamed.received (s.happens .poll) = [] := by
  have hops := (Streamed.quiet_operations s.operations s.stream).2
  have hparting : Streamed.received (s.task.parting s.pollTask.2.task) = [] := by
    cases s.task <;> cases s.pollTask.2.task <;> rfl
  rw [happens, Streamed.received_append, hops, hparting]
  rfl

theorem crashed?_close (e : End) (x : Exchange Streamed ℓ) (s : Session ℓ) :
    (close e x s).task.crashed? ≠ none := by
  unfold close
  split <;> exact nofun

theorem crashed_close (message : String) (x : Exchange Streamed ℓ) (s : Session ℓ) :
    (close (.crashed message) x s).task ≠ .ended none := by
  unfold close End.leave
  rcases x.finish _ with ⟨_ | crash, y⟩ <;> exact nofun

structure Complete (whole : Stop × Exchange Buffered (Journal ℓ)) : Prop where
  status : whole.2.observer.inner.response.status ≠ .switchingProtocols
  returns : Log.Returns (Journal ℓ) ∨ ∃ x, whole = (.returned, x)

theorem Complete.not_crashed (h : Complete whole) {message : String}
    {x : Exchange Buffered (Journal ℓ)} (hlog : ¬Log.Returns (Journal ℓ)) :
    whole ≠ (.crashed message, x) := by
  rintro rfl
  obtain hreturns | ⟨_, hx⟩ := h.returns
  · exact hlog hreturns
  · cases hx

theorem Tracks.react (h : Tracks v whole told s) (hwhole : Complete whole) {e : Event (Journal ℓ)}
    (he : e.Quiet) (hworks : (s.react e).task.crashed? = none) :
    Tracks v whole (told ++ (Streamed.received (s.happens e)).flatten) (s.react e) := by
  cases he with
  | body => exact h.takeBody.1
  | head =>
    have hquiet : Streamed.received (s.happens .head) = [] := by
      rw [happens]
      cases s.takeHead.1 <;> rfl
    rw [hquiet, List.flatten_nil, List.append_nil]
    exact (h.takeHead hwhole.status).1
  | poll =>
    rw [received_poll, List.flatten_nil, List.append_nil]
    rw [Session.react] at hworks ⊢
    cases hrest : s.rest? with
    | none => rwa [pollTask_of_no_rest hrest h.aborted]
    | some r =>
      cases h.comes hrest with
      | works ht => exact ht
      | returns hr => exact absurd (hr.close ▸ hworks) (crashed?_close _ _ _)
      | crashes _ hclose => exact absurd (hclose ▸ hworks) (crashed?_close _ _ _)
      | abandons hlog hx => exact absurd hx (hwhole.not_crashed hlog)
  | elsewhere log now =>
    obtain ⟨r, x, hleaves, hplain, hpoll, halike⟩ := h.rest
    obtain ⟨e?, hx, hy⟩ := halike.books
    rw [happens, Streamed.received, List.filterMap_nil, List.flatten_nil, List.append_nil]
    exact ⟨h.aborted, h.reader, h.unspawned, r, x, hleaves, hplain, hpoll, halike.inner,
      halike.tally, e?, hx, Interlude.accounted_pass hy { log, now }⟩

theorem crashed?_of_run {s : Session ℓ} (es : List (Event ℓ))
    (h : (s.run es).task.crashed? = none) :
    s.task.crashed? = none := by
  cases ht : s.task with
  | ended crash => rw [ended_run ht es] at h; cases h
  | unspawned | queued | running => rfl

theorem Tracks.run (h : Tracks v whole told s) (hwhole : Complete whole)
    {es : List (Event (Journal ℓ))} (hes : ∀ e ∈ es, e.Quiet)
    (hworks : (s.run es).task.crashed? = none) :
    Tracks v whole (told ++ (Streamed.received (s.trace es)).flatten) (s.run es) := by
  induction es generalizing s told with
  | nil => exact (List.append_nil told).symm ▸ h
  | cons e es ih =>
    rw [List.forall_mem_cons] at hes
    have hreact := h.react hwhole hes.1 (crashed?_of_run es hworks)
    have hrun := ih hreact hes.2 hworks
    rwa [List.append_assoc, ← List.flatten_append, ← Streamed.received_append] at hrun

theorem Tracks.ends (h : Tracks v whole told s) (hwhole : Complete whole)
    {es : List (Event (Journal ℓ))} (hes : ∀ e ∈ es, e.Quiet) {crash : Option String}
    (hcrash : crash = none ∨ Log.Returns (Journal ℓ)) (hend : (s.run es).task = .ended crash) :
    ∃ before after x y, es = before ++ .poll :: after ∧ (s.run before).task.crashed? = none ∧
      (s.run before).pollTask.2.task = .ended crash ∧
      Returns v whole (told ++ (Streamed.received (s.trace before)).flatten)
        (s.run before) x y := by
  have hstay : .drop ∉ es := fun hdrop => nomatch hes _ hdrop
  have hworking : s.task.crashed? = none := by
    obtain ⟨_, _, hleaves, -⟩ := h.rest
    exact hleaves.working
  obtain ⟨before, after, e, rfl, hends, hpoll⟩ := ends_of_ended h.aborted hworking hstay hend
  obtain ⟨r, hrest, -⟩ := hends.ends
  have hbefore := crashed?_of_rest hrest
  have htracks := h.run hwhole (fun e he => hes e (List.mem_append_left _ he)) hbefore
  cases htracks.comes hrest with
  | works ht =>
    obtain ⟨_, _, hleaves, -⟩ := ht.rest
    have hleaves := hleaves.working
    rw [hpoll] at hleaves
    cases hleaves
  | returns hr => exact ⟨before, after, _, _, rfl, hbefore, hpoll, hr⟩
  | crashes hlog hclose =>
    rcases hcrash with rfl | hreturns
    · exact absurd (hclose ▸ hpoll) (crashed_close _ _ _)
    · exact absurd hreturns hlog
  | abandons hlog hx => exact absurd hx (hwhole.not_crashed hlog)

end Session

end AccessTrail
