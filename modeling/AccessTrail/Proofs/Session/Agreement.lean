import AccessTrail.Log.Memory
import AccessTrail.Proofs.Session.Tracking

namespace AccessTrail

variable {ℓ : Type}

def Session.round : List (Event ℓ) := [.head, .poll, .head, .body]

theorem Session.journaled_rounds (k : Nat) :
    (List.replicate k (round : List (Event ℓ))).flatten.map Event.journaled =
      (List.replicate k (round : List (Event (Journal ℓ)))).flatten := by
  rw [List.map_flatten, List.map_replicate]
  rfl

theorem Session.quiet_rounds {k : Nat} (e : Event (Journal ℓ))
    (he : e ∈ (List.replicate k round).flatten) :
    e.Quiet := by
  have hround : ∀ e ∈ (round : List (Event (Journal ℓ))), e.Quiet := by
    simp only [round, List.forall_mem_cons]
    exact ⟨.head, .poll, .head, .body, nofun⟩
  obtain ⟨events, hevents, he⟩ := List.mem_flatten.1 he
  rw [List.eq_of_mem_replicate hevents] at he
  exact hround e he

variable [Log ℓ]

theorem Buffered.inner_leave (e : End) (x : Exchange Buffered ℓ) :
    (e.leave x).2.observer.inner = x.observer.inner := by
  rw [End.leave_snd]
  exact Exchange.inner_record x.closing x

theorem Exchange.tally_finish {σ : Type} [Transport σ] (crashed : Bool) (x : Exchange σ ℓ) :
    (x.finish crashed).2.observer.tally = x.observer.tally := tally_record x.closing x

namespace Session

variable {v : Http.Visit} {whole : Stop × Exchange Buffered (Journal ℓ)} {told : Bytes}
  {s : Session (Journal ℓ)} {x : Exchange Buffered (Journal ℓ)} {y : Exchange Streamed (Journal ℓ)}

theorem Tracks.round (h : Tracks v whole told s) (hwhole : Complete whole) :
    (s.run round).task.crashed? ≠ none ∨
      ∃ told', told.length < told'.length ∧ Tracks v whole told' (s.run Session.round) := by
  obtain ⟨hfirst, hspawned, -⟩ := h.takeHead hwhole.status
  obtain ⟨r, _, hleaves, -⟩ := hfirst.rest
  have hrest := rest?_of_leaves hleaves hfirst.aborted hspawned
  have hends : s.takeHead.2.pollTask.2.task.crashed? ≠ none →
      (s.run Session.round).task.crashed? ≠ none :=
    fun hended hnone => hended (crashed?_of_run [.head, .body] hnone)
  cases hfirst.comes hrest with
  | works ht hbusy =>
    obtain ⟨hthird, -, hreads⟩ := ht.takeHead hwhole.status
    obtain ⟨hlast, hmore⟩ := hthird.takeBody
    obtain ⟨hbusy, hreading⟩ := hreads hbusy
    refine .inr ⟨_, ?_, hlast⟩
    rw [List.length_append]
    exact Nat.lt_add_of_pos_right (List.length_pos_iff.2 (hmore hbusy hreading))
  | returns hr => exact .inl (hends (hr.close ▸ crashed?_close _ _ _))
  | crashes _ hclose => exact .inl (hends (hclose ▸ crashed?_close _ _ _))
  | abandons hlog hx => exact absurd hx (hwhole.not_crashed hlog)

theorem Tracks.ends_in_rounds (hwhole : Complete whole) (n : Nat) (h : Tracks v whole told s)
    (hn : whole.2.observer.inner.body.length < told.length + n) :
    ∃ k, (s.run (List.replicate k Session.round).flatten).task.crashed? ≠ none := by
  induction n generalizing s told with
  | zero => exact absurd hn (Nat.not_lt.2 h.kept.1)
  | succ n ih =>
    rcases h.round hwhole with hended | ⟨told', htold, hround⟩
    · exact ⟨1, by simpa using hended⟩
    · obtain ⟨k, hk⟩ := ih hround (by omega)
      refine ⟨k + 1, ?_⟩
      rwa [List.replicate_succ, List.flatten_cons, run_append]

theorem aside_react {crash : Option String} (h : s.task = .ended crash) {e : Event (Journal ℓ)}
    (he : e.Quiet) :
    Aside s (s.react e) := by
  cases he with
  | head => exact .takeHead (by simp [h])
  | body => exact .takeBody s
  | elsewhere log now => exact .elsewhere log now s
  | poll =>
    rw [react, pollTask, cancel, h]
    split <;> exact .refl s

theorem aside_run {crash : Option String} (h : s.task = .ended crash)
    {es : List (Event (Journal ℓ))} (hes : ∀ e ∈ es, e.Quiet) : Aside s (s.run es) := by
  induction es generalizing s with
  | nil => exact .refl s
  | cons e es ih =>
    rw [List.forall_mem_cons] at hes
    exact (aside_react h hes.1).trans (ih (ended_react h e) hes.2)

def SameRecord (v : Http.Visit) (asked asked' : List Bytes) : Prop :=
  ∃ (stamp stamp' : String) (e : Entry) (elapsed : Duration),
    asked = [(⟨stamp, v, e⟩ : Record).bytes] ∧
      asked' = [(⟨stamp', v, { e with elapsed }⟩ : Record).bytes]

theorem exchange_close (e : End) (x : Exchange Streamed ℓ) (s : Session ℓ) :
    (close e x s).exchange = (x.finish e.isCrash).2 := by
  rw [← End.leave_snd]
  unfold close
  split <;> next h => rw [h]

theorem Returns.noted (h : Returns v whole told s x y) {crash : Option String}
    (hend : s.pollTask.2.task = .ended crash) {after : List (Event (Journal ℓ))}
    (hafter : ∀ e ∈ after, e.Quiet) :
    (s.pollTask.2.run after).exchange.observer.tally = (x.finish false).2.observer.tally ∧
      SameRecord v (x.finish false).2.log.asked (s.pollTask.2.run after).exchange.log.asked := by
  have haside := aside_run hend hafter
  have hexchange : s.pollTask.2.exchange = (y.finish false).2 := by
    rw [h.close]
    exact exchange_close .returned y s
  obtain ⟨e?, hx, hy⟩ := h.alike.books
  constructor
  · rw [haside.tally, hexchange, Exchange.tally_finish, Exchange.tally_finish, h.alike.tally]
  · have hentry : e?.getD y.closing =
        { e?.getD x.closing with elapsed := (e?.getD y.closing).elapsed } := by
      cases e? with
      | some e => rfl
      | none =>
        simp only [Option.getD_none, Exchange.closing]
        rw [h.alike.tally]
    have hbooks : Accounted v (some (e?.getD y.closing)) s.pollTask.2.exchange :=
      hexchange ▸ hy.finish false
    obtain ⟨stamp, hasked⟩ := (hx.finish false).asked
    obtain ⟨stamp', hasked'⟩ := (haside.books hbooks).asked
    rw [hentry] at hasked'
    exact ⟨stamp, stamp', _, _, hasked, hasked'⟩

section

variable {handler : Handler} {q : Http.Request} {log : Journal ℓ} {now : Clock}
  {before after : List (Event (Journal ℓ))} {crash : Option String} {first : Http.Head}

theorem heads_of_end (hbefore : .drop ∉ before)
    (hnot : ∀ crash, ((start handler q log now).run before).task ≠ .ended crash)
    (hend : ((start handler q log now).run before).pollTask.2.task = .ended crash)
    (hhead : ((start handler q log now).run before).pollTask.2.stream.head = some first)
    (hafter : .drop ∉ after) (n : Nat) :
    Streamed.heads ((start handler q log now).trace
      (before ++ .poll :: (after ++ .head :: List.replicate n .body))) =
      [first] := by
  have hended : ((start handler q log now).run (before ++ .poll :: after)).task = .ended crash := by
    rw [run_append]
    exact ended_run hend after
  have hstay : .drop ∉ before ++ .poll :: after := by simp [hbefore, hafter]
  have hreleased := (answering_start handler q log now hstay).released
  rw [hended] at hreleased
  have hasked := heads_of_released handler q log now hstay hreleased (List.replicate n .body)
  rw [List.append_assoc] at hasked
  have hreads : .drop ∉ after ++ .head :: List.replicate n .body := by simp [hafter]
  have hpresent := (run_of_end (aborted_run rfl hbefore) hnot hend).1
  have hrest := congrArg (·.2.head) (run_of_ended hend hpresent hhead hreads)
  refine (answering_start handler q log now ?_).heads_of_head hasked ?_
  · simp [hbefore, hafter]
  · rw [run_append]
    exact hrest.symm.trans (Streamed.head_run hhead _)

theorem received_cut {steps : List Streamed.Step}
    (h : (start handler q log now).trace (before ++ [.poll]) =
      (Streamed.run (steps ++ [.release crash.isSome]) (.forRequest q)).1) :
    Streamed.received ((start handler q log now).trace before) =
      Streamed.received (Streamed.run steps (.forRequest q)).1 := by
  have hreceived := congrArg Streamed.received h
  rw [trace_append, Streamed.received_append, Streamed.run_append, Streamed.received_append, trace,
    trace, List.append_nil, received_poll, List.append_nil] at hreceived
  exact hreceived.trans (List.append_nil _)

theorem Returns.conveys
    (h : Returns v whole (Streamed.received ((start handler q log now).trace before)).flatten
      ((start handler q log now).run before) x y)
    (hworking : ((start handler q log now).run before).task.crashed? = none)
    (hend : ((start handler q log now).run before).pollTask.2.task = .ended none)
    (hbefore : .drop ∉ before) (hafter : .drop ∉ after)
    (hstatus : x.observer.inner.response.status ≠ .switchingProtocols) {n : Nat}
    (hn : Streamed.capacity + 1 < n) :
    Streamed.Conveys
      ((start handler q log now).trace
        (before ++ .poll :: (after ++ .head :: List.replicate n .body)))
      x.observer.inner.response := by
  have hnot : ∀ crash, ((start handler q log now).run before).task ≠ .ended crash :=
    fun crash ht => by
    rw [ht] at hworking
    cases hworking
  obtain ⟨-, -, headers, hsent⟩ := h.alike.inner.release
  have hhead : ((start handler q log now).run before).pollTask.2.stream.head =
      some ⟨x.observer.inner.response.status, headers⟩ := by
    rw [stream_of_end (aborted_run rfl hbefore) hnot hend, ← h.inner]
    exact hsent
  obtain ⟨steps, hsteps, hlast, -, hall⟩ := run_cut handler q log now hbefore hnot hend hhead
  have hmatches := h.alike.inner
  rw [h.inner, ← hlast, received_cut ((hall [] List.not_mem_nil).1)] at hmatches
  obtain ⟨chunks, hbody, htold⟩ :=
    hmatches.told_of_release hsteps hstatus (isReading_step? hafter) hn
  refine ⟨⟨headers, heads_of_end hbefore hnot hend hhead hafter n⟩, chunks, hbody, ?_⟩
  rwa [(hall _ (by simp [hafter])).1, filterMap_reads]

end

theorem Tracks.returns_in_rounds (h : Tracks v whole told s)
    (hstatus : whole.2.observer.inner.response.status ≠ .switchingProtocols)
    (hlog : Log.Returns (Journal ℓ)) {es : List (Event (Journal ℓ))} (hes : ∀ e ∈ es, e.Quiet) :
    (∃ x, whole = (.returned, x)) ∧
      ∃ k, (s.run (es ++ (List.replicate k Session.round).flatten)).task = .ended none := by
  have hwhole : Complete whole := ⟨hstatus, .inl hlog⟩
  obtain ⟨k, hk⟩ :
    ∃ k, (s.run (es ++ (List.replicate k Session.round).flatten)).task.crashed? ≠ none := by
    by_cases hworks : (s.run es).task.crashed? = none
    · obtain ⟨k, hk⟩ := (h.run hwhole hes hworks).ends_in_rounds hwhole
        (whole.2.observer.inner.body.length + 1) (by omega)
      exact ⟨k, by rwa [run_append]⟩
    · exact ⟨0, by simpa using hworks⟩
  obtain ⟨crashed, hcrashed⟩ := Option.ne_none_iff_exists'.1 hk
  obtain ⟨crash, hended⟩ := Task.ended_of_crashed? hcrashed
  have hquiet : ∀ e ∈ es ++ (List.replicate k Session.round).flatten, e.Quiet := fun e he =>
    (List.mem_append.1 he).elim (hes e) (quiet_rounds e)
  obtain ⟨before, after, x, y, -, -, hpoll, hr⟩ := h.ends hwhole hquiet (.inr hlog) hended
  refine ⟨⟨x, hr.whole⟩, k, ?_⟩
  rw [hr.close, task_close hlog] at hpoll
  cases hpoll
  exact hended

theorem Tracks.settled {handler : Handler} {q : Http.Request} {log : Journal ℓ} {now : Clock}
    {x : Exchange Buffered (Journal ℓ)} (h : Tracks v (.returned, x) [] (start handler q log now))
    (hstatus : x.observer.inner.response.status ≠ .switchingProtocols)
    {es : List (Event (Journal ℓ))} (hes : ∀ e ∈ es, e.Quiet)
    (hend : ((start handler q log now).run es).task = .ended none) :
    ((start handler q log now).run es).exchange.observer.tally = (x.finish false).2.observer.tally ∧
      SameRecord v (x.finish false).2.log.asked
        ((start handler q log now).run es).exchange.log.asked ∧
      ∀ n, Streamed.capacity + 1 < n →
        Streamed.Conveys ((start handler q log now).trace (es ++ .head :: List.replicate n .body))
          x.observer.inner.response := by
  obtain ⟨before, after, _, y, rfl, hworking, hpoll, hr⟩ :=
    h.ends ⟨hstatus, .inr ⟨x, rfl⟩⟩ hes (.inl rfl) hend
  cases hr.whole
  have hbefore : ∀ e ∈ before, e.Quiet := fun e he => hes e (List.mem_append_left _ he)
  have hafter : ∀ e ∈ after, e.Quiet := fun e he =>
    hes e (List.mem_append_right _ (List.mem_cons_of_mem _ he))
  obtain ⟨htally, hrecord⟩ := hr.noted hpoll hafter
  rw [run_append]
  refine ⟨htally, hrecord, fun n hn => ?_⟩
  rw [List.append_assoc]
  exact hr.conveys hworking hpoll (fun hdrop => nomatch hbefore _ hdrop)
    (fun hdrop => nomatch hafter _ hdrop)
    hstatus hn

/-- A plain handler of a session, whose client stays, agrees with the serving of a response that is
kept whole. It comes to its end if the client reads on; and then it has noted the same and made the
same record, and a client that asks for the head and reads on is told the response that was kept. -/
theorem agrees_with_buffered {handler : Handler} {q : Http.Request} (hp : (handler q).Plain)
    (log : ℓ) (now : Clock) (es : List (Event ℓ)) (hstay : .drop ∉ es) (hturn : ∀ p, .turn p ∉ es) :
    let whole := serve 1 (handler q) (.enter q ({} : Buffered) (⟨log, []⟩ : Journal ℓ) now)
    let r := whole.2.observer.inner.response
    let s := play handler q log now es
    r.status ≠ .switchingProtocols →
    (Log.Returns ℓ → whole.1 = .returned ∧
      ∃ k, (play handler q log now (es ++ (List.replicate k round).flatten)).task = .ended none) ∧
    (whole.1 = .returned → s.task = .ended none →
      s.exchange.observer.tally = whole.2.observer.tally ∧
      SameRecord q.visit whole.2.log.asked s.exchange.log.asked ∧
      ∀ n, Streamed.capacity + 1 < n →
        Streamed.Conveys ((start handler q (⟨log, []⟩ : Journal ℓ) now).trace
          (List.map Event.journaled (es ++ .head :: List.replicate n .body))) r) := by
  intro whole r s hstatus
  have htracks := tracks_start hp log now
  have hquiet := Event.quiet_journaled hstay hturn
  have hwhole : whole = _ := serve_one (handler q) _
  generalize (Rest.ready (handler q)).poll (.enter q ({} : Buffered) (⟨log, []⟩ : Journal ℓ) now) =
    stop
    at htracks hwhole
  have hr : r = stop.2.observer.inner.response := by rw [← Buffered.inner_leave, ← hwhole]
  rw [hr] at hstatus
  constructor
  · intro hlog
    obtain ⟨⟨x, hx⟩, k, hk⟩ := htracks.returns_in_rounds hstatus (Journal.returns hlog) hquiet
    refine ⟨?_, k, ?_⟩
    · subst hx
      rw [hwhole]
      exact End.leave_fst (Journal.returns hlog) .returned x
    · rwa [play, List.map_append, journaled_rounds]
  · intro hreturned hended
    obtain ⟨ending, x⟩ := stop
    rw [hwhole] at hreturned
    cases Stop.returned_of_ending (End.leave_returned hreturned)
    have hleave : whole.2 = (x.finish false).2 :=
      (congrArg Prod.snd hwhole).trans (End.leave_snd .returned x)
    obtain ⟨htally, hrecord, hconveys⟩ := htracks.settled hstatus hquiet hended
    rw [hr, hleave]
    refine ⟨htally, hrecord, fun n hn => ?_⟩
    rw [List.map_append, List.map_cons, List.map_replicate]
    exact hconveys n hn

theorem agrees_with_buffered_of_waiting :
    let handler : Handler := fun _ => .sequence
      (.sendHead .badRequest :: List.replicate 9 (.writeAll [0x61]) ++
        [.fail .internalServerError ⟨"boom", []⟩]) .done
    let log : MemoryLog := {}
    let now : Clock := ⟨"T", {}⟩
    let es := [.head, .poll, .head, .body, .poll]
    let whole :=
      serve 1 (handler {}) (.enter {} ({} : Buffered) (⟨log, []⟩ : Journal MemoryLog) now)
    let r := whole.2.observer.inner.response
    let s := play handler {} log now es
    r.status = .badRequest ∧ whole.1 = .returned ∧ s.task = .ended none ∧
      (∃ k, (play handler {} log now (es ++ (List.replicate k round).flatten)).task = .ended none) ∧
      s.exchange.observer.tally = whole.2.observer.tally ∧
      SameRecord {} whole.2.log.asked s.exchange.log.asked ∧
      Streamed.Conveys ((start handler {} (⟨log, []⟩ : Journal MemoryLog) now).trace
        (List.map Event.journaled (es ++ .head :: List.replicate 10 .body))) r := by
  intro handler log now es whole r s
  have hlog : Log.Returns MemoryLog := fun _ _ _ => nofun
  have hplain : (handler {}).Plain := Program.plain_sequence (by decide)
  have hstatus : r.status = .badRequest := by decide +kernel
  have hcrashed : s.task.crashed? = some false := by decide +kernel
  have hended : s.task = .ended none := by
    obtain ⟨crash, h⟩ := Task.ended_of_crashed? hcrashed
    rw [h] at hcrashed
    cases crash with
    | none => exact h
    | some => cases hcrashed
  obtain ⟨hends, hagrees⟩ := agrees_with_buffered hplain log now es (by simp [es]) (by simp [es])
    (hstatus ▸ by decide)
  obtain ⟨hreturned, hrounds⟩ := hends hlog
  obtain ⟨htally, hrecord, hconveys⟩ := hagrees hreturned hended
  exact ⟨hstatus, hreturned, hended, hrounds, htally, hrecord, hconveys 10 (by decide)⟩

end Session

end AccessTrail
