import AccessTrail.Proofs.Handler.Failure
import AccessTrail.Proofs.Handler.Outcome
import AccessTrail.Proofs.Transport.Shared

namespace AccessTrail

variable {σ ℓ μ : Type}

inductive StatusEvent
  | head : Http.Status → StatusEvent
  | failure : Http.Status → StatusEvent
  | write

namespace StatusEvent

def given? : StatusEvent → Option Http.Status
  | head status | failure status => some status
  | write => none

def status (e : StatusEvent) : Http.Status := e.given?.getD .ok

def last? : List StatusEvent → Option Http.Status
  | [] => none
  | e :: es => some (((e :: es).filterMap given?).getLast?.getD .ok)

theorem last?_eq_none {es : List StatusEvent} : last? es = none ↔ es = [] := by
  cases es <;> simp [last?]

theorem last?_of_ne_nil {es : List StatusEvent} (h : es ≠ []) :
    last? es = some ((es.filterMap given?).getLast?.getD .ok) := by
  cases es with
  | nil => exact absurd rfl h
  | cons => rfl

theorem last?_concat (es : List StatusEvent) (e : StatusEvent) :
    last? (es ++ [e]) = some (e.given?.getD ((last? es).getD .ok)) := by
  rw [last?_of_ne_nil (by simp), List.filterMap_append, List.filterMap_cons, List.filterMap_nil]
  cases e.given? with
  | some status => simp
  | none => cases es <;> simp [last?]

end StatusEvent

def Operation.event? : Operation → Option StatusEvent
  | sendHead status => some (.head status)
  | write _ => some .write
  | _ => none

namespace Outcome

def events (os : List Outcome) : List StatusEvent := os.filterMap (·.operation.event?)

theorem events_cons (o : Outcome) (os : List Outcome) :
    events (o :: os) = o.operation.event?.toList ++ events os := by
  rw [events, List.filterMap_cons]
  cases o.operation.event? <;> rfl

end Outcome

theorem Tally.after_of_quiet {t : Tally} {o : Outcome} (h : o.operation.event? = none) :
    t.after o = t := by
  obtain ⟨op, answer, wire⟩ := o
  cases op with
  | sendHead | write => cases h
  | headers | edit | flush | close | handOver => rfl

theorem Tally.status_after {t : Tally} {o : Outcome} {e : StatusEvent}
    (h : o.operation.event? = some e) :
    (t.after o).status = some (e.given?.getD (t.status.getD .ok)) := by
  obtain ⟨op, answer, wire⟩ := o
  cases op with
  | sendHead status =>
    cases h
    rfl
  | write bs =>
    cases h
    rcases answer with _ | _ | _ | ((_ | n) | again) | _ | _ <;> rfl
  | headers | edit | flush | close | handOver => cases h

theorem Tally.last_after {t : Tally} {es : List StatusEvent} (h : t.status = StatusEvent.last? es)
    (o : Outcome) :
    (t.after o).status = StatusEvent.last? (es ++ o.operation.event?.toList) := by
  cases he : o.operation.event? with
  | none => rwa [after_of_quiet he, Option.toList_none, List.append_nil]
  | some e =>
    rw [status_after he, h]
    exact (StatusEvent.last?_concat es e).symm

theorem Tally.last_outcomes {t : Tally} {es : List StatusEvent}
    (h : t.status = StatusEvent.last? es) (os : List Outcome) :
    (os.foldl after t).status = StatusEvent.last? (es ++ Outcome.events os) := by
  induction os generalizing t es with
  | nil => rwa [Outcome.events, List.filterMap_nil, List.append_nil]
  | cons o os ih =>
    rw [Outcome.events_cons, ← List.append_assoc]
    exact ih (last_after h o)

variable [Transport σ]

/-- A transport that settles on the first status it is given. -/
structure Transport.Settles (act : μ → σ → σ) (committed : σ → Option Http.Status) : Prop where
  operate : ∀ (op : Operation) s,
    committed (op.on s).2 = (committed s).or (op.event?.map (·.status))
  other : ∀ m s, committed (act m s) = committed s

theorem Transport.Settles.kept {act : μ → σ → σ} {committed : σ → Option Http.Status}
    {status : Http.Status} (hc : Settles act committed) (op : Operation) {s : σ}
    (h : committed s = some status) :
    committed (op.on s).2 = some status := by
  rw [hc.operate, h]
  rfl

structure Statuses (committed : σ → Option Http.Status) (es : List StatusEvent) (t : Tally)
    (s : σ) : Prop where
  last : t.status = StatusEvent.last? es
  first : committed s = es.head?.map (·.status)
  uncounted : es = [] → t.produced = 0 ∧ t.sent = 0

namespace Statuses

variable {act : μ → σ → σ} {committed : σ → Option Http.Status} {es : List StatusEvent}
  {t : Tally} {s : σ}

theorem on (hc : Transport.Settles act committed) (h : Statuses committed es t s) (op : Operation) :
    Statuses committed (es ++ op.event?.toList) (t.after (op.outcome s)) (op.on s).2 := by
  refine ⟨Tally.last_after h.last (op.outcome s), ?_, ?_⟩
  · rw [hc.operate, h.first]
    cases es <;> cases op.event? <;> rfl
  · intro hnil
    obtain ⟨hes, hop⟩ := List.append_eq_nil_iff.1 hnil
    rw [Tally.after_of_quiet (Option.toList_eq_nil_iff.1 hop)]
    exact h.uncounted hes

theorem outcomes (hc : Transport.Settles act committed) (h : Statuses committed es t s)
    (ops : List Operation) :
    Statuses committed (es ++ Outcome.events (Operation.outcomes ops s))
      ((Operation.outcomes ops s).foldl Tally.after t) (Operation.run ops s).2 := by
  induction ops generalizing es t s with
  | nil => rwa [Operation.outcomes, Outcome.events, List.filterMap_nil, List.append_nil]
  | cons op ops ih =>
    rw [Operation.outcomes, Outcome.events_cons, ← List.append_assoc]
    exact ih (h.on hc op)

theorem reply {x : Exchange σ ℓ} (hc : Transport.Settles act committed)
    (h : Statuses committed es x.observer.tally x.observer.inner)
    (hes : es ≠ []) (parts : List Bytes) :
    Statuses committed es (Work.pollReply parts x).2.observer.tally
      (Work.pollReply parts x).2.observer.inner := by
  obtain ⟨e, es, rfl⟩ := List.exists_cons_of_ne_nil hes
  refine ⟨?_, ?_, fun hnil => absurd hnil hes⟩
  · rw [Work.tally_pollReply]
    exact h.last
  · exact Work.pollReply_keeps (P := fun s => committed s = some e.status)
      (fun bs s => hc.kept (.write bs))
      (fun s => hc.kept .flush) parts h.first

theorem first_replyHead {x : Exchange σ ℓ} (hc : Transport.Settles act committed)
    (h : committed x.observer.inner = es.head?.map (·.status)) (status : Http.Status) :
    committed (x.replyHead status).observer.inner =
      (es ++ [StatusEvent.failure status]).head?.map (·.status) := by
  have hedit : committed (Transport.editHeaders Exchange.plainText x.observer.inner) =
      es.head?.map (·.status) := by
    refine (hc.operate (.edit Exchange.plainText) _).trans ?_
    rw [h]
    exact Option.or_none
  refine (hc.operate (.sendHead status) _).trans ?_
  rw [hedit]
  cases es <;> rfl

end Statuses

variable [Log ℓ]

namespace Work

variable {w : Work} {x : Exchange σ ℓ} {status : Http.Status} {f : Failure}

def events (w : Work) (x : Exchange σ ℓ) : List StatusEvent :=
  match w with
  | .command (.fail status f) =>
    if (x.record (Exchange.failing status f)).1 = none then [.failure status] else []
  | w => Outcome.events (w.asked x)

theorem events_of_asked (hw : w.isReply = false) :
    w.events x = Outcome.events (Operation.outcomes (w.operations x) x.observer.inner) := by
  have hasked : w.asked x = Operation.outcomes (w.operations x) x.observer.inner :=
    if_neg (by simp [hw])
  rw [← hasked]
  unfold events
  split
  · cases hw
  · rfl

theorem events_reply (parts : List Bytes) : (reply parts).events x = [] := rfl

end Work

namespace Statuses

variable {act : μ → σ → σ} {committed : σ → Option Http.Status} {es : List StatusEvent}
  {x : Exchange σ ℓ}

theorem fail (hc : Transport.Settles act committed)
    (h : Statuses committed es x.observer.tally x.observer.inner) {status : Http.Status}
    {f : Failure} (hrecord : (x.record (Exchange.failing status f)).1 = none) :
    Statuses committed (es ++ [.failure status]) (Work.fail status f x).2.observer.tally
      (Work.fail status f x).2.observer.inner := by
  refine ⟨?_, ?_, fun hnil => absurd hnil (by simp)⟩
  · rw [Work.tally_fail, if_pos hrecord, StatusEvent.last?_concat]
    rfl
  · by_cases hsent : x.observer.tally.sent = 0
    · obtain ⟨y, hinner, hy⟩ := Work.fail_of_replies ⟨hsent, hrecord⟩
      have hhead := first_replyHead hc (hinner ▸ h.first) status
      obtain ⟨first, hfirst⟩ :
          ∃ first, (es ++ [StatusEvent.failure status]).head?.map (·.status) = some first := by
        cases es <;> exact ⟨_, rfl⟩
      rw [hfirst] at hhead ⊢
      rw [hy]
      exact Work.pollReply_keeps (P := fun s => committed s = some first)
        (fun bs s => hc.kept (.write bs))
        (fun s => hc.kept .flush) _ hhead
    · obtain ⟨hinner, -⟩ :=
        Work.fail_of_not_replies (fun hreplies => hsent hreplies.1 : ¬x.Replies status f)
      rw [hinner, h.first]
      cases es with
      | nil => exact absurd (h.uncounted rfl).2 hsent
      | cons => rfl

theorem fail_of_crash (h : Statuses committed es x.observer.tally x.observer.inner)
    {status : Http.Status} {f : Failure}
    (hrecord : (x.record (Exchange.failing status f)).1 ≠ none) :
    Statuses committed es (Work.fail status f x).2.observer.tally
      (Work.fail status f x).2.observer.inner := by
  obtain ⟨hinner, -⟩ :=
    Work.fail_of_not_replies (fun hreplies => hrecord hreplies.2 : ¬x.Replies status f)
  rwa [Work.tally_fail, if_neg hrecord, hinner]

theorem poll (hc : Transport.Settles act committed)
    (h : Statuses committed es x.observer.tally x.observer.inner) {w : Work}
    (hw : ∀ parts, w = .reply parts → es ≠ []) :
    Statuses committed (es ++ w.events x) (w.poll x).2.observer.tally
      (w.poll x).2.observer.inner := by
  cases hreply : w.isReply with
  | true =>
    cases w with
    | reply parts =>
      rw [Work.events_reply, List.append_nil]
      exact h.reply hc (hw parts rfl) parts
    | yielded => cases hreply
    | command c =>
      cases c with
      | fail status f =>
        rw [Work.events]
        split
        next hrecord => exact h.fail hc hrecord
        next hrecord =>
          rw [List.append_nil]
          exact h.fail_of_crash hrecord
      | _ => cases hreply
  | false =>
    rw [Work.events_of_asked hreply, Work.tally_poll hreply, Work.poll_operations]
    exact h.outcomes hc _

end Statuses

namespace Exchange

variable (act : μ → σ → σ)

def events (x : Exchange σ ℓ) : List (Move μ ℓ) → List StatusEvent
  | [] => []
  | .poll w :: ms => w.events x ++ events (x.move act (.poll w)) ms
  | m :: ms => events (x.move act m) ms

theorem events_append (x : Exchange σ ℓ) (ms ms' : List (Move μ ℓ)) :
    x.events act (ms ++ ms') = x.events act ms ++ (x.moves act ms).events act ms' := by
  induction ms generalizing x with
  | nil => rfl
  | cons m ms ih =>
    cases m with
    | poll w => exact (congrArg (w.events x ++ ·) (ih _)).trans (List.append_assoc ..).symm
    | other | elsewhere => exact ih _

/-- What is left of an error reply is polled only after the failure that it tells of. -/
def Orderly (x : Exchange σ ℓ) (ms : List (Move μ ℓ)) : Prop :=
  ∀ before parts after, ms = before ++ .poll (.reply parts) :: after →
    ∃ status, .failure status ∈ x.events act before

variable {act}

theorem Orderly.of_append {x : Exchange σ ℓ} {ms more : List (Move μ ℓ)}
    (h : x.Orderly act (ms ++ more)) :
    x.Orderly act ms := by
  rintro before parts after rfl
  exact h before parts (after ++ more) (List.append_assoc ..)

theorem statuses_moves {committed : σ → Option Http.Status} (hc : Transport.Settles act committed)
    {x : Exchange σ ℓ} (h : Statuses committed [] x.observer.tally x.observer.inner)
    {ms : List (Move μ ℓ)} (hms : x.Orderly act ms) :
    Statuses committed (x.events act ms) (x.moves act ms).observer.tally
      (x.moves act ms).observer.inner := by
  induction ms using List.reverseRecOn with
  | nil => exact h
  | append_singleton ms m ih =>
    have hbefore := ih hms.of_append
    have hmove : x.moves act (ms ++ [m]) = (x.moves act ms).move act m := moves_append act x ms [m]
    rw [events_append, hmove]
    cases m with
    | poll w =>
      have hw : ∀ parts, w = .reply parts → x.events act ms ≠ [] := by
        rintro parts rfl
        obtain ⟨status, hstatus⟩ := hms ms parts [] rfl
        exact List.ne_nil_of_mem hstatus
      rw [show (x.moves act ms).events act [.poll w] = w.events (x.moves act ms) from
        List.append_nil _]
      exact hbefore.poll hc hw
    | other m =>
      rw [show (x.moves act ms).events act [.other m] = [] from rfl, List.append_nil]
      exact ⟨hbefore.last, (hc.other m _).trans hbefore.first, hbefore.uncounted⟩
    | elsewhere log now =>
      rw [show (x.moves act ms).events act [.elsewhere log now] = [] from rfl, List.append_nil]
      exact hbefore

structure Lifecycle (es : List StatusEvent) (t : Tally) (committed : Option Http.Status) :
    Prop where
  unset : t.status = none ↔ es = []
  uncommitted : committed = none ↔ es = []
  uncounted : es = [] → t.produced = 0 ∧ t.sent = 0
  noted : es ≠ [] → t.status = some ((es.filterMap StatusEvent.given?).getLast?.getD .ok)
  settled : ∀ e, es.head? = some e → committed = some e.status

theorem lifecycle_moves {committed : σ → Option Http.Status} (hc : Transport.Settles act committed)
    {x : Exchange σ ℓ} (h : Statuses committed [] x.observer.tally x.observer.inner)
    {ms more : List (Move μ ℓ)} (hms : x.Orderly act (ms ++ more)) :
    let y := x.moves act ms
    let z := x.moves act (ms ++ more)
    Lifecycle (x.events act ms) y.observer.tally (committed y.observer.inner) ∧
      (y.observer.tally.status ≠ none → z.observer.tally.status ≠ none) ∧
      (committed y.observer.inner ≠ none →
        committed z.observer.inner = committed y.observer.inner) := by
  intro y z
  have hy := statuses_moves hc h (hms.of_append)
  have hz := statuses_moves hc h hms
  refine ⟨⟨?_, ?_, hy.uncounted, ?_, ?_⟩, ?_, ?_⟩
  · rw [hy.last, StatusEvent.last?_eq_none]
  · rw [hy.first, Option.map_eq_none_iff, List.head?_eq_none_iff]
  · intro hes
    rw [hy.last]
    exact StatusEvent.last?_of_ne_nil hes
  · intro e he
    rw [hy.first, he]
    rfl
  · rw [hy.last, hz.last, ne_eq, ne_eq, StatusEvent.last?_eq_none, StatusEvent.last?_eq_none,
      events_append]
    exact fun hes => List.append_ne_nil_of_left_ne_nil hes _
  · rw [hy.first, hz.first, events_append]
    cases x.events act ms with
    | nil => exact fun hes => absurd rfl hes
    | cons => exact fun _ => rfl

end Exchange

theorem Buffered.settles :
    Transport.Settles (Empty.elim : Empty → Buffered → Buffered) Buffered.status where
  operate op b := by
    cases op with
    | sendHead | write =>
      cases h : b.status <;> simp [Operation.on, Operation.event?, Transport.sendHead,
        Transport.write, append, commit, h, StatusEvent.status, StatusEvent.given?]
    | headers | edit | flush | close | handOver => exact (Option.or_none).symm
  other := nofun

namespace Streamed

def committed (s : Streamed) : Option Http.Status := s.head.map (·.status)

theorem settles : Transport.Settles Demand.act committed where
  operate op s := by
    rw [committed, head_on]
    cases op with
    | sendHead | write =>
      cases h : s.head <;> simp [committed, h, Operation.head?, Operation.event?,
        StatusEvent.status, StatusEvent.given?]
    | headers | edit | flush | close | handOver =>
      simp [committed, Operation.head?, Operation.event?]
  other d s := congrArg (Option.map Http.Head.status) (d.head_act s)

end Streamed

namespace Exchange

/-- Over both kinds of response: nothing is noted or committed before the first event, and nothing
is counted. Then what is noted is the last status that was given, and what is committed is that of
the first event, for good. -/
theorem status_lifecycle (q : Http.Request) (log : ℓ) (now : Clock) :
    (∀ ms more : List (Move Streamed.Demand ℓ),
      let start : Exchange Streamed ℓ := enter q (Streamed.forRequest q) log now
      let x := start.moves Streamed.Demand.act ms
      let y := start.moves Streamed.Demand.act (ms ++ more)
      start.Orderly Streamed.Demand.act (ms ++ more) →
      Lifecycle (start.events Streamed.Demand.act ms) x.observer.tally x.observer.inner.committed ∧
        (x.observer.tally.status ≠ none → y.observer.tally.status ≠ none) ∧
        (x.observer.inner.committed ≠ none →
          y.observer.inner.committed = x.observer.inner.committed)) ∧
    ∀ ms more : List (Move Empty ℓ),
      let start : Exchange Buffered ℓ := enter q {} log now
      let x := start.moves Empty.elim ms
      let y := start.moves Empty.elim (ms ++ more)
      start.Orderly Empty.elim (ms ++ more) →
      Lifecycle (start.events Empty.elim ms) x.observer.tally x.observer.inner.status ∧
        (x.observer.tally.status ≠ none → y.observer.tally.status ≠ none) ∧
        (x.observer.inner.status ≠ none → y.observer.inner.status = x.observer.inner.status) := by
  constructor
  · intro ms more start x y hms
    exact lifecycle_moves Streamed.settles ⟨rfl, rfl, fun _ => ⟨rfl, rfl⟩⟩ hms
  · intro ms more start x y hms
    exact lifecycle_moves Buffered.settles ⟨rfl, rfl, fun _ => ⟨rfl, rfl⟩⟩ hms

theorem orderly_of_no_reply {act : μ → σ → σ} {x : Exchange σ ℓ} {ms : List (Move μ ℓ)}
    (h : ∀ parts, .poll (.reply parts) ∉ ms) : x.Orderly act ms := by
  rintro before parts after rfl
  exact absurd (List.mem_append_right before List.mem_cons_self) (h parts)

theorem status_lifecycle_of_late_head :
    let late : List Work := [.command (.write []), .command (.sendHead .notFound)]
    let ms : List (Move Streamed.Demand MemoryLog) := late.map .poll
    let start : Exchange Streamed MemoryLog := enter {} (Streamed.forRequest {}) {} ⟨"T", {}⟩
    let x := start.moves Streamed.Demand.act ms
    let ms' : List (Move Empty MemoryLog) := late.map .poll
    let start' : Exchange Buffered MemoryLog := enter {} {} {} ⟨"T", {}⟩
    let x' := start'.moves Empty.elim ms'
    (start.Orderly Streamed.Demand.act (ms ++ []) ∧ x.observer.tally.status = some .notFound ∧
        x.observer.inner.committed = some .ok) ∧
      start'.Orderly Empty.elim (ms' ++ []) ∧ x'.observer.tally.status = some .notFound ∧
        x'.observer.inner.status = some .ok := by
  intro late ms start x ms' start' x'
  obtain ⟨hstreamed, hbuffered⟩ := status_lifecycle {} ({} : MemoryLog) ⟨"T", {}⟩
  have horderly : start.Orderly Streamed.Demand.act (ms ++ []) :=
    orderly_of_no_reply (by simp [ms, late])
  have horderly' : start'.Orderly Empty.elim (ms' ++ []) :=
    orderly_of_no_reply (by simp [ms', late])
  obtain ⟨h, -⟩ := hstreamed ms [] horderly
  obtain ⟨h', -⟩ := hbuffered ms' [] horderly'
  have hevents : start.events Streamed.Demand.act ms = [.write, .head .notFound] := rfl
  have hevents' : start'.events Empty.elim ms' = [.write, .head .notFound] := rfl
  rw [hevents] at h
  rw [hevents'] at h'
  exact ⟨⟨horderly, h.noted (by simp), h.settled .write rfl⟩, horderly', h'.noted (by simp),
    h'.settled .write rfl⟩

end Exchange

end AccessTrail
