import AccessTrail.Proofs.Handler.Noting
import AccessTrail.Proofs.Session.Noted
import AccessTrail.Proofs.Session.Record

namespace AccessTrail

variable {ℓ : Type}

theorem Task.released_of_parting {t t' : Task} {h : Streamed.Happening} (hmem : h ∈ t.parting t') :
    ∃ crashed, h = .released crashed := by
  cases t <;> cases t' <;> first
    | exact absurd hmem List.not_mem_nil
    | exact ⟨_, List.mem_singleton.1 hmem⟩

def Tally.entry (t : Tally) (elapsed : Duration) : Entry where
  status := t.code
  elapsed := elapsed
  bytes := t.sent
  ratio := t.ratio

namespace Session

variable [Log ℓ]

def given (s : Session ℓ) : List (Event ℓ) → List Command
  | [] => []
  | .poll :: es => (s.rest?.map (·.givenIn s.exchange)).getD [] ++ given (s.react .poll) es
  | e :: es => given (s.react e) es

theorem poll_of_no_rest {s : Session ℓ} (ha : s.aborted = false) (hrest : s.rest? = none) :
    s.react .poll = s ∧ s.happens .poll = [] := by
  have hself : s.pollTask.2 = s := pollTask_of_no_rest hrest ha
  refine ⟨hself, ?_⟩
  rw [happens, operations, hrest, hself, Task.parting_self]
  rfl

inductive Leaves (v : Http.Visit) (hs : List Streamed.Happening) (s : Session (Journal ℓ)) : Prop
  | working : s.task.crashed? = none → Accounted v none s.exchange →
    s.exchange.observer.tally = Streamed.noted hs →
      (∀ r, s.task = .running r → r.Silent ∧ r.isReply = false) →
    Leaves v hs s
  | ended {crashed elapsed} : s.task.crashed? = some crashed →
    Accounted v (some ((Streamed.noted hs).entry elapsed)) s.exchange → Leaves v hs s

section

variable {v : Http.Visit} {hs : List Streamed.Happening} {s : Session (Journal ℓ)} {e : Event ℓ}

theorem beside_react (hpoll : e ≠ .poll) :
    (∀ {e?}, Accounted v e? s.exchange → Accounted v e? (s.react e.journaled).exchange) ∧
      (s.react e.journaled).exchange.observer.tally = s.exchange.observer.tally := by
  cases e with
  | poll => exact absurd rfl hpoll
  | head =>
    have hs := Aside.takeHead_spawn s
    exact ⟨fun h => hs.books (by rwa [spawn_exchange]), hs.tally.trans (by rw [spawn_exchange])⟩
  | body => exact ⟨(Aside.takeBody s).books, rfl⟩
  | drop => exact ⟨(Aside.drop s).books, (Aside.drop s).tally⟩
  | turn p =>
    rw [Event.journaled, react, turn]
    split <;> exact ⟨id, rfl⟩
  | elsewhere log now => exact ⟨(Aside.elsewhere log now s).books, rfl⟩

theorem outcomes_beside (hpoll : e ≠ .poll) : Streamed.outcomes (s.happens e.journaled) = [] := by
  cases e with
  | poll => exact absurd rfl hpoll
  | head | body | drop | turn | elsewhere => rfl

theorem running_react {e : Event (Journal ℓ)} (hpoll : e ≠ .poll) {r : Rest}
    (h : (s.react e).task = .running r) :
    s.task = .running r ∨ ∃ p, r = .ready p := by
  cases e with
  | poll => exact absurd rfl hpoll
  | body | elsewhere => exact .inl h
  | drop =>
    rw [react, (Aside.drop s).task] at h
    exact .inl h
  | turn p =>
    rw [react, turn] at h
    split at h
    · cases h
      exact .inr ⟨p, rfl⟩
    · exact .inl h
  | head =>
    rw [react, (Aside.takeHead_spawn s).task, spawn] at h
    split at h
    · cases h
    · exact .inl h

omit [Log ℓ] in
theorem rest?_cases {r : Rest} (h : s.rest? = some r) :
    s.task = .running r ∨ ∃ p, r = .ready p := by
  rw [rest?] at h
  split at h
  · cases h
  · split at h
    · cases h
      exact .inr ⟨_, rfl⟩
    next rest ht =>
      cases h
      exact .inl ht
    · cases h
    · cases h

theorem leaves_close {x : Exchange Streamed (Journal ℓ)} (hx : Accounted v none x)
    (htally : x.observer.tally = Streamed.noted hs) (e : End) (s : Session (Journal ℓ)) :
    Leaves v hs (close e x s) := by
  have hclosing : x.closing = (Streamed.noted hs).entry x.now.elapsed := by
    rw [← htally]
    rfl
  have hf := hx.finish e.isCrash
  rw [← End.leave_snd, Option.getD_none, hclosing] at hf
  unfold close
  split <;> next hl =>
    rw [hl] at hf
    exact .ended rfl hf

theorem leaves_settle {r : Rest} {x : Exchange Streamed (Journal ℓ)} (hr : r.isReply = false)
    (hx : Accounted v none (r.poll x).2) (htally : (r.poll x).2.observer.tally = Streamed.noted hs)
    (s : Session (Journal ℓ)) : Leaves v hs (settle (r.poll x) s).2 := by
  unfold settle
  split
  next y hy =>
    rw [hy] at hx htally
    exact leaves_close hx htally .returned s
  next message y hy =>
    rw [hy] at hx htally
    exact leaves_close hx htally (.crashed message) s
  next again r' y hy =>
    rw [hy] at hx htally
    refine .working rfl hx htally fun r'' hr'' => ?_
    cases hr''
    exact ⟨Rest.poll_waiting hy, Rest.isReply_of_waiting hr hy hx.logged⟩

theorem outcomes_poll {r : Rest} (hrest : s.rest? = some r) :
    Streamed.outcomes (s.happens .poll) =
      Operation.outcomes (r.operations s.exchange) s.stream := by
  have hparting : Streamed.outcomes (s.task.parting s.pollTask.2.task) = [] := by
    cases s.task <;> cases s.pollTask.2.task <;> rfl
  rw [happens, Streamed.outcomes_append, hparting, List.append_nil, Streamed.outcomes_operations,
    operations, hrest]
  rfl

theorem leaves_poll (ha : s.aborted = false) (h : Leaves v hs s)
    (hgiven : entryOf (s.given [.poll]) = none) :
    Leaves v (hs ++ s.happens .poll) (s.react .poll) := by
  cases hrest : s.rest? with
  | none =>
    obtain ⟨hself, hnone⟩ := poll_of_no_rest ha hrest
    rwa [hself, hnone, List.append_nil]
  | some r =>
    cases h with
    | ended hended =>
      rw [crashed?_of_rest hrest] at hended
      cases hended
    | working _ hx htally hrests =>
      obtain ⟨hsilent, hr⟩ : r.Silent ∧ r.isReply = false := by
        rcases rest?_cases hrest with hrunning | ⟨p, rfl⟩
        · exact hrests r hrunning
        · exact ⟨trivial, rfl⟩
      rw [given, hrest, given, List.append_nil] at hgiven
      have hbooks := Rest.accounted_poll hx hsilent
      rw [Option.none_or, show entryOf (r.givenIn s.exchange) = none from hgiven] at hbooks
      have hnoted : (r.poll s.exchange).2.observer.tally =
          Streamed.noted (hs ++ s.happens .poll) := by
        rw [Streamed.noted_append, outcomes_poll hrest, ← htally]
        exact Rest.tally_poll hr s.exchange hbooks.logged
      rw [react, pollTask_of_rest hrest]
      exact leaves_settle hr hbooks hnoted s

theorem leaves_react (ha : s.aborted = false) (h : Leaves v hs s)
    (hgiven : entryOf (s.given [e.journaled]) = none) :
    Leaves v (hs ++ s.happens e.journaled) (s.react e.journaled) := by
  by_cases hpoll : e = .poll
  · subst hpoll
    exact leaves_poll ha h hgiven
  have hpoll' : e.journaled ≠ .poll := by cases e <;> simp_all [Event.journaled]
  obtain ⟨hbooks, htally⟩ := beside_react (s := s) hpoll
  have hnoted : Streamed.noted (hs ++ s.happens e.journaled) = Streamed.noted hs := by
    rw [Streamed.noted_append, outcomes_beside hpoll]
    rfl
  have hcrashed := crashed?_react (s := s) hpoll'
  cases h with
  | working hworking hx ht hrests =>
    refine .working (hcrashed.trans hworking) (hbooks hx) (htally.trans (ht.trans hnoted.symm))
      fun r hr => ?_
    rcases running_react hpoll' hr with hr | ⟨p, rfl⟩
    · exact hrests r hr
    · exact ⟨trivial, rfl⟩
  | ended hended hx =>
    rw [← hnoted] at hx
    exact .ended (hcrashed.trans hended) (hbooks hx)

theorem leaves_run (ha : s.aborted = false) (h : Leaves v hs s) {es : List (Event ℓ)}
    (hstay : .drop ∉ es) (hgiven : entryOf (s.given (es.map .journaled)) = none) :
    Leaves v (hs ++ s.trace (es.map .journaled)) (s.run (es.map .journaled)) := by
  induction es generalizing hs s with
  | nil => exact (List.append_nil hs).symm ▸ h
  | cons e es ih =>
    rw [List.mem_cons, not_or] at hstay
    have hdrop : e.journaled ≠ .drop := by cases e <;> simp_all [Event.journaled]
    have hsplit : s.given ((e :: es).map .journaled) =
        s.given [e.journaled] ++ (s.react e.journaled).given (es.map .journaled) := by
      cases e with
      | poll => exact congrArg (· ++ _) (List.append_nil _).symm
      | head | body | drop | turn | elsewhere => rfl
    rw [hsplit, entryOf_append, Option.or_eq_none_iff] at hgiven
    have hrun := ih (aborted_react ha hdrop) (leaves_react ha h hgiven.1) hstay.2 hgiven.2
    rwa [List.append_assoc] at hrun

end

omit [Log ℓ] in
theorem takeHead_ne_lost (s : Session ℓ) : s.takeHead.1 ≠ .lost := by
  rw [takeHead]
  split
  · intro h
    cases h
  next answer t hlost _ =>
    rintro rfl
    exact hlost rfl

theorem letsGo_operations {ops : List Operation} {s : Streamed} {h : Streamed.Happening}
    (hmem : h ∈ (Streamed.run (ops.map .operate) s).1) : h.mark.letsGo = false := by
  induction ops generalizing s with
  | nil => exact absurd hmem List.not_mem_nil
  | cons op ops ih =>
    rcases List.mem_cons.1 hmem with rfl | hmem
    · simp only [Streamed.on, Streamed.Happening.mark]
      split <;> simp_all
    · exact ih hmem

theorem letsGo_happens {e : Event ℓ} (hdrop : e ≠ .drop) {s : Session ℓ} {h : Streamed.Happening}
    (hmem : h ∈ s.happens e) (hgone : h.mark.letsGo = true) :
    ∃ head, h.mark.head = some head ∧ head.status = .switchingProtocols := by
  cases e with
  | drop => exact absurd rfl hdrop
  | turn | elsewhere => exact absurd hmem List.not_mem_nil
  | body =>
    rw [List.mem_singleton.1 hmem] at hgone
    cases hbody : s.takeBody.1 <;> rw [hbody] at hgone <;> cases hgone
  | poll =>
    rcases List.mem_append.1 hmem with hmem | hmem
    · rw [letsGo_operations hmem] at hgone
      cases hgone
    · obtain ⟨crashed, rfl⟩ := Task.released_of_parting hmem
      cases hgone
  | head =>
    rw [List.mem_singleton.1 hmem] at hgone ⊢
    cases hhead : s.takeHead.1 with
    | lost => exact absurd hhead s.takeHead_ne_lost
    | head head =>
      rw [hhead] at hgone
      exact ⟨head, rfl, of_decide_eq_true hgone⟩
    | waiting | unexpected =>
      rw [hhead] at hgone
      cases hgone

theorem letsGo_trace {es : List (Event ℓ)} (hstay : .drop ∉ es) {s : Session ℓ}
    (h : ∀ head ∈ Streamed.heads (s.trace es), head.status ≠ .switchingProtocols) :
    (s.trace es).any (·.mark.letsGo) = false := by
  induction es generalizing s with
  | nil => rfl
  | cons e es ih =>
    rw [List.mem_cons, not_or] at hstay
    rw [trace, Streamed.heads_append, List.forall_mem_append] at h
    rw [trace, List.any_append, ih hstay.2 h.2, Bool.or_false, List.any_eq_false]
    intro happening hmem hgone
    obtain ⟨head, hhead, hstatus⟩ := letsGo_happens (Ne.symm hstay.1) hmem hgone
    exact h.1 head (List.mem_filterMap.2 ⟨happening, hmem, hhead⟩) hstatus

omit [Log ℓ] in
theorem drop_not_mem_journaled {es : List (Event ℓ)} (hstay : .drop ∉ es) :
    .drop ∉ es.map Event.journaled := by
  intro h
  obtain ⟨e, he, hdrop⟩ := List.mem_map.1 h
  cases e with
  | drop => exact hstay he
  | head | body | poll | turn | elsewhere => cases hdrop

theorem run_of_returned (handler : Handler) (q : Http.Request) (log : ℓ) (now : Clock)
    {es : List (Event ℓ)} (hstay : .drop ∉ es)
    (h : ((start handler q log now).run es).task = .ended none) :
    ∃ steps, Streamed.run steps (.forRequest q) =
      ((start handler q log now).trace es, ((start handler q log now).run es).stream) := by
  obtain ⟨before, after, e, rfl, hends, hlast⟩ :=
    ends_of_ended (s := start handler q log now) rfl rfl hstay h
  have hbefore : .drop ∉ before := hends.stays
  have hworking : ∀ crash, ((start handler q log now).run before).task ≠ .ended crash := by
    obtain ⟨r, hr, -⟩ := hends.ends
    intro crash hcrash
    rw [rest?, hcrash, ite_self] at hr
    cases hr
  have hhead : ∃ head, ((start handler q log now).run before).pollTask.2.stream.head =
      some head := by
    rw [stream_of_end (aborted_run rfl hbefore) hworking hlast]
    exact Streamed.head_of_release _
  obtain ⟨head, hhead⟩ := hhead
  obtain ⟨steps, -, -, -, hwhole⟩ := run_cut handler q log now hbefore hworking hlast hhead
  obtain ⟨htrace, hstream⟩ := hwhole after (by simp_all)
  exact ⟨_, Prod.ext htrace.symm hstream.symm⟩

theorem read_of_finished (handler : Handler) (q : Http.Request) (log : ℓ) (now : Clock)
    {es : List (Event ℓ)} (hstay : .drop ∉ es)
    (hreturned : ((start handler q log now).run es).task = .ended none)
    (hread : ((start handler q log now).run es).takeBody.1 = .finished) :
    let hs := (start handler q log now).trace es
    let first := (Streamed.settled hs).getD ⟨.ok, Streamed.edited hs⟩
    first.status ≠ .switchingProtocols →
    Streamed.heads hs = [first] ∧ Streamed.received hs = Streamed.accepted hs := by
  intro hs first hstatus
  have hanswering : Streamed.Answering hs (some false)
      ((start handler q log now).run es).stream := by
    have h := answering_start handler q log now hstay
    rwa [hreturned] at h
  have hhead : ((start handler q log now).run es).stream.head = some first := by
    rw [hanswering.head]
    cases h : Streamed.settled hs <;> simp [first, h, Streamed.partingHead]
  have hheads : ∀ head ∈ Streamed.heads hs, head = first := by
    intro head hmem
    have hasked : Streamed.heads hs ≠ [] := List.ne_nil_of_mem hmem
    rw [hanswering.heads_of_head hasked hhead] at hmem
    exact List.mem_singleton.1 hmem
  have hholds : hs.any (·.mark.letsGo) = false := by
    refine letsGo_trace hstay fun head hmem => ?_
    rwa [hheads head hmem]
  obtain ⟨steps, hsteps⟩ := run_of_returned handler q log now hstay hreturned
  have hall := Streamed.received_of_finished q steps
  rw [hsteps] at hall
  obtain ⟨hreceived, hreading⟩ := hall hholds hread
  refine ⟨?_, hreceived⟩
  refine hanswering.heads_of_head (fun hnil => ?_) hhead
  cases hanswering.asked with
  | waits hr => cases hr.symm.trans hreading
  | told _ _ hh => cases hh.symm.trans hnil
  | refused hr => cases hr.symm.trans hreading

/-- Where the handler returns and leaves the record to the end, and a client reads the whole body,
the record counts the bytes that the client got, and says what status came with them. Only where no
head was settled it says 0, and the client got an empty 200. -/
theorem record_truthful (handler : Handler) (q : Http.Request) (log : ℓ) (now : Clock)
    (es : List (Event ℓ)) (hstay : .drop ∉ es)
    (hreturned : (play handler q log now es).task = .ended none)
    (hread : (play handler q log now es).takeBody.1 = .finished) :
    let s := start handler q (⟨log, []⟩ : Journal ℓ) now
    let hs := s.trace (es.map .journaled)
    let body := (Streamed.received hs).flatten
    (∀ c ∈ s.given (es.map .journaled), c.entry? = none) →
    Operation.HeadFirst (Streamed.performed hs) →
    (∀ head, Streamed.settled hs = some head → head.status ≠ .switchingProtocols) →
    ∃ (stamp : String) (elapsed : Duration) (status : UInt16) (head : Http.Head),
      (play handler q log now es).exchange.log.asked = [(⟨stamp, q.visit,
        { status, elapsed, bytes := UInt64.ofNat body.length, ratio := "-",
          message := "" }⟩ : Record).bytes] ∧
      Streamed.heads hs = [head] ∧
      (Streamed.settled hs ≠ none → status.toNat = head.status.code) ∧
      (Streamed.settled hs = none → status = 0 ∧ head.status = .ok ∧ body = []) := by
  intro s hs body hgiven hfirst hswitch
  let z := play handler q log now es
  have hstay' : .drop ∉ es.map Event.journaled := drop_not_mem_journaled hstay
  have hleaves : Leaves q.visit hs z := by
    have hstart : Leaves q.visit [] s := .working rfl ⟨rfl, rfl, now.stamp, rfl⟩ rfl nofun
    exact leaves_run rfl hstart hstay (List.findSome?_eq_none_iff.2 hgiven)
  obtain ⟨elapsed, stamp, hasked⟩ : ∃ elapsed stamp, z.exchange.log.asked =
      [(⟨stamp, q.visit, (Streamed.noted hs).entry elapsed⟩ : Record).bytes] := by
    cases hleaves with
    | working hworking =>
      rw [hreturned] at hworking
      cases hworking
    | @ended _ elapsed _ hbooks =>
      obtain ⟨stamp, h⟩ := hbooks.asked
      exact ⟨elapsed, stamp, h⟩
  let first := (Streamed.settled hs).getD ⟨.ok, Streamed.edited hs⟩
  have hstatus : first.status ≠ .switchingProtocols := by
    cases h : Streamed.settled hs with
    | none => simp [first, h, Http.Status.ok, Http.Status.switchingProtocols]
    | some head => simpa [first, h] using hswitch head h
  obtain ⟨hheads, hreceived⟩ := read_of_finished handler q _ now hstay' hreturned hread hstatus
  have hnoted : (Streamed.noted hs).sent = UInt64.ofNat body.length ∧
      (Streamed.noted hs).produced = UInt64.ofNat body.length := by
    obtain ⟨steps, hsteps⟩ := run_of_returned handler q (⟨log, []⟩ : Journal ℓ) now hstay' hreturned
    have hcounted := Streamed.counted_run steps (.forRequest q) {}
    rw [hsteps] at hcounted
    obtain ⟨hsent, hproduced⟩ := hcounted
    have hbody : body = (Streamed.accepted hs).flatten := congrArg List.flatten hreceived
    rw [hbody]
    exact ⟨hsent.trans (UInt64.zero_add _), hproduced.trans (UInt64.zero_add _)⟩
  have hentry : (Streamed.noted hs).entry elapsed =
      ⟨(Streamed.noted hs).code, elapsed, UInt64.ofNat body.length, "-", ""⟩ := by
    rw [Tally.entry, Tally.ratio, hnoted.1, hnoted.2, Ratio.text, if_pos (.inr (.inr rfl))]
    rfl
  refine ⟨stamp, elapsed, (Streamed.noted hs).code, first, hentry ▸ hasked, hheads, ?_, ?_⟩
  · intro hsettled
    obtain ⟨head, hhead⟩ := Option.ne_none_iff_exists'.1 hsettled
    have hcode : (Streamed.noted hs).code = UInt16.ofNat head.status.code := by
      rw [Tally.code, Streamed.status_noted_of_headFirst hfirst, hhead]
      rfl
    have hlast : first = head := by simp [first, hhead]
    rw [hcode, hlast]
    exact UInt16.toNat_ofNat_of_lt' (lt_trans head.status.high (by decide))
  · intro hsettled
    refine ⟨?_, by simp [first, hsettled], ?_⟩
    · rw [Tally.code, Streamed.status_noted_of_headFirst hfirst, hsettled]
      rfl
    · have hnothing : Streamed.received hs = [] :=
        hreceived.trans (Streamed.accepted_of_unsettled hsettled)
      exact congrArg List.flatten hnothing

theorem record_truthful_of_served :
    let told : Handler := fun _ => .sequence [.sendHead .notFound, .write [0x61]] .done
    let silent : Handler := fun _ => .done
    let es : List (Event MemoryLog) := [.head, .poll, .head, .body]
    let asked (handler : Handler) := (play handler {} {} ⟨"T", {}⟩ es).exchange.log.asked
    let hs (handler : Handler) := (start handler {} (⟨{}, []⟩ : Journal MemoryLog) ⟨"T", {}⟩).trace
      (es.map .journaled)
    (∃ stamp elapsed status head, asked told = [(⟨stamp, ({} : Http.Request).visit,
        ⟨status, elapsed, 1, "-", ""⟩⟩ : Record).bytes] ∧
        Streamed.heads (hs told) = [head] ∧ status.toNat = head.status.code) ∧
      ∃ stamp elapsed head, asked silent = [(⟨stamp, ({} : Http.Request).visit,
        ⟨0, elapsed, 0, "-", ""⟩⟩ : Record).bytes] ∧ Streamed.heads (hs silent) = [head] ∧
        head.status = .ok := by
  intro told silent es asked hs
  have hstay : .drop ∉ es := by simp [es]
  have hgiven : (start told {} (⟨{}, []⟩ : Journal MemoryLog) ⟨"T", {}⟩).given (es.map .journaled) =
    [.sendHead .notFound, .write [0x61]] := rfl
  have htrace : (start told {} (⟨{}, []⟩ : Journal MemoryLog) ⟨"T", {}⟩).trace (es.map .journaled) =
    [.head .waiting, .operated (.sendHead .notFound) (.sent []),
    .operated (.write [0x61]) (.wrote (.done (.ok 1))), .released false,
    .head (.head ⟨.notFound, {}⟩), .body (.chunk [0x61])] := rfl
  have hnothing :
    (start silent {} (⟨{}, []⟩ : Journal MemoryLog) ⟨"T", {}⟩).trace (es.map .journaled) =
    [.head .waiting, .released false, .head (.head ⟨.ok, {}⟩), .body .finished] := rfl
  have hquiet :
    ∀ c ∈ (start told {} (⟨{}, []⟩ : Journal MemoryLog) ⟨"T", {}⟩).given (es.map .journaled),
      c.entry? = none := by
    rw [hgiven]
    exact List.forall_mem_cons.2 ⟨rfl, List.forall_mem_singleton.2 rfl⟩
  have hfirst : Operation.HeadFirst [.sendHead .notFound, .write [0x61]] :=
    Operation.headFirst_cons (by simp)
  have htold := record_truthful told {} ({} : MemoryLog) ⟨"T", {}⟩ es hstay rfl rfl hquiet
  have hsilent := record_truthful silent {} ({} : MemoryLog) ⟨"T", {}⟩ es hstay rfl rfl
    fun _ hc => absurd hc List.not_mem_nil
  rw [htrace] at htold
  rw [hnothing] at hsilent
  obtain ⟨stamp, elapsed, status, head, hasked, hheads, hstatus, -⟩ :=
    htold hfirst (by rintro head ⟨⟩; decide)
  obtain ⟨stamp', elapsed', status', head', hasked', hheads', -, hzero⟩ :=
    hsilent (fun before _ _ hsplit => by cases before <;> cases hsplit) (by rintro head ⟨⟩)
  obtain ⟨rfl, hok, -⟩ := hzero rfl
  rw [← htrace] at hheads
  rw [← hnothing] at hheads'
  exact ⟨⟨stamp, elapsed, status, head, hasked, hheads, hstatus (Option.some_ne_none _)⟩, stamp',
    elapsed', head', hasked', hheads', hok⟩

end Session

end AccessTrail
