import AccessTrail.Proofs.Session.Race

namespace AccessTrail

variable {ℓ : Type}

open Streamed (Demand Happening)

namespace Streamed

/-- The client knows how the response ended. A head that the writer did not settle comes when it has
gone: it is that of an empty answer, or a bare error. -/
inductive Over (hs : List Happening) : Prop
  | finished : .finished ∈ answers hs → Over hs
  | broken {reason : String} : .broken reason ∈ answers hs → Over hs
  | unsettled : heads hs ≠ [] → settled hs = none → Over hs

structure Plain (hs : List Happening) : Prop where
  unclosed : .close ∉ performed hs
  bodied : ∀ head, settled hs = some head → head.status ≠ .switchingProtocols

theorem Plain.of_append {hs hs' : List Happening} (h : Plain (hs ++ hs')) : Plain hs where
  unclosed hclose := h.unclosed (by rw [performed_append]; exact List.mem_append_left _ hclose)
  bodied head hhead := h.bodied head (by rw [settled_append, hhead]; rfl)

theorem not_over_concat {hs : List Happening} (hopen : ¬Over hs) {h : Happening}
    (hanswer : ∀ a, h.answer? = some a → ∃ bs, a = .chunk bs)
    (hhead : h.mark.head ≠ none → settled hs ≠ none) : ¬Over (hs ++ [h]) := by
  have hanswers : ∀ a ∈ answers (hs ++ [h]), a ∈ answers hs ∨ ∃ bs, a = .chunk bs := by
    intro a ha
    rw [answers_append, List.mem_append] at ha
    refine ha.imp id fun ha => ?_
    obtain ⟨happening, hmem, hsome⟩ := List.mem_filterMap.1 ha
    rw [List.mem_singleton.1 hmem] at hsome
    exact hanswer a hsome
  rintro (hfinished | hbroken | ⟨hheads, hsettled⟩)
  · rcases hanswers _ hfinished with h | ⟨_, h⟩
    · exact hopen (.finished h)
    · cases h
  · rcases hanswers _ hbroken with h | ⟨_, h⟩
    · exact hopen (.broken h)
    · cases h
  · rw [settled_append, Option.or_eq_none_iff] at hsettled
    have hnone : h.mark.head = none := not_not.1 fun hsome => hhead hsome hsettled.1
    rw [heads_concat, hnone, Option.toList_none, List.append_nil] at hheads
    exact hopen (.unsettled hheads hsettled.1)

theorem open_operate {op : Operation} (hop : op ≠ .close) (s : Streamed) :
    (op.on s).2.closed = s.closed ∧
      ((op.on s).2.queue = s.queue ∨ ∃ bs, (op.on s).2.queue = s.queue ++ [.chunk bs]) := by
  cases op with
  | headers | edit | flush => exact ⟨rfl, .inl rfl⟩
  | close => exact absurd rfl hop
  | sendHead status => exact ⟨closed_commit status s, .inl (queue_commit status s)⟩
  | handOver =>
    obtain ⟨_, hs⟩ := handOver_on s
    rw [hs]
    exact ⟨rfl, .inl rfl⟩
  | write bs =>
    cases bs with
    | nil => exact ⟨closed_commit .ok s, .inl (queue_commit .ok s)⟩
    | cons b bs =>
      rw [Operation.on, write_cons]
      split
      · exact ⟨closed_commit .ok s, .inl (queue_commit .ok s)⟩
      · split
        · exact ⟨closed_commit .ok s, .inl (queue_commit .ok s)⟩
        · exact ⟨closed_commit .ok s, .inr ⟨b :: bs, by rw [push, queue_commit]⟩⟩

namespace Underway

variable {s : Streamed}

theorem operate (h : Underway s) {op : Operation} (hop : op ≠ .close) : Underway (op.on s).2 := by
  obtain ⟨hreleased, hreader⟩ := kept_operate op s
  obtain ⟨hclosed, hqueue⟩ := open_operate hop s
  refine ⟨hreleased.trans h.released, hclosed.trans h.closed, hreader ▸ h.reader, ?_⟩
  rcases hqueue with hq | ⟨bs, hq⟩ <;> rw [hq]
  · exact h.whole
  · simp [h.whole]

theorem takeBody (h : Underway s) :
    Underway s.takeBody.2 ∧ ∀ a, (Happening.body s.takeBody.1).answer? = some a →
      ∃ bs, a = .chunk bs := by
  unfold Streamed.takeBody
  split
  next bs rest _ hq =>
    have hwhole := h.whole
    rw [hq, List.mem_cons, not_or] at hwhole
    refine ⟨⟨h.released, h.closed, h.reader, hwhole.2⟩, fun a ha => ?_⟩
    cases ha
    exact ⟨bs, rfl⟩
  next hq => exact absurd (hq ▸ List.mem_cons_self) h.whole
  · rw [h.closed, h.released]
    exact ⟨h, nofun⟩
  next hr => rcases h.reader with hreader | hreader <;> cases hr.symm.trans hreader
  · exact ⟨h, nofun⟩
  · exact ⟨h, nofun⟩

end Underway

/-- The client was not told how the response ends and, if it is there, it will not be while the
writer is. -/
structure Unsure (hs : List Happening) (s : Streamed) : Prop where
  untold : ¬Over hs
  underway : s.reader ≠ .gone → Answering hs none s ∧ Underway s

theorem Demand.gone_act {s : Streamed} (h : s.reader = .gone) (d : Demand) :
    (d.act s).reader = .gone := by
  cases d with
  | head =>
    rw [act, Streamed.takeHead, h]
    exact h
  | body =>
    rw [act, Streamed.takeBody, h]
    exact h
  | drop => rw [act, h]

theorem Demand.drop_act (s : Streamed) : (drop.act s).reader = .gone := by
  rw [act]
  split <;> rfl

theorem takeHead_of_gone {s : Streamed} (h : s.reader = .gone) : s.takeHead.1 = .unexpected := by
  rw [takeHead, h]

namespace Unsure

variable {hs : List Happening} {s : Streamed}

theorem held (h : Unsure hs s) : s.takeHead.1 ≠ .lost := by
  intro hlost
  by_cases hr : s.reader = .gone
  · cases (takeHead_of_gone hr).symm.trans hlost
  · have := (h.underway hr).1.crashed_of_lost hlost
    cases this.1

theorem operate (h : Unsure hs s) {op : Operation} (hop : op ≠ .close) :
    Unsure (hs ++ [.operated op (op.on s).1]) (op.on s).2 where
  untold := by
    have hquiet : (Happening.operated op (op.on s).1).mark.head = none := by
      unfold Happening.mark
      split <;> simp_all
    exact not_over_concat h.untold nofun fun hhead => absurd hquiet hhead
  underway hr := by
    rw [(kept_operate op s).2] at hr
    obtain ⟨hanswering, hunderway⟩ := h.underway hr
    exact ⟨hanswering.operations [op], hunderway.operate hop⟩

theorem head (h : Unsure hs s) (hplain : Plain hs) :
    Unsure (hs ++ [.head s.takeHead.1]) s.takeHead.2 := by
  by_cases hr : s.reader = .gone
  · refine ⟨?_, fun hreader => absurd (Demand.gone_act hr .head) hreader⟩
    rw [takeHead_of_gone hr]
    exact not_over_concat h.untold nofun (absurd rfl)
  · obtain ⟨ha, hu⟩ := h.underway hr
    have hheld := h.held
    have htakes := s.takes
    generalize s.takeHead = taken at hheld htakes ⊢
    cases htakes with
    | lost => exact absurd rfl hheld
    | unexpected | waiting =>
      exact ⟨not_over_concat h.untold nofun (absurd rfl), fun _ => ⟨ha.idle rfl rfl, hu⟩⟩
    | head hwaits hhead =>
      have hsettled := hhead.symm.trans (ha.head.trans Option.or_none)
      refine ⟨not_over_concat h.untold nofun fun _ hnone => ?_, fun _ => ⟨?_, ?_⟩⟩
      · cases hsettled.trans hnone
      · exact ha.answer hwaits fun _ hh => .told (.inl rfl) hhead hh
      · exact ⟨hu.released, hu.closed, .inr rfl, hu.whole⟩
    | switch hwaits hhead hstatus =>
      have hsettled := hhead.symm.trans (ha.head.trans Option.or_none)
      exact absurd hstatus (hplain.bodied _ hsettled.symm)

theorem body (h : Unsure hs s) : Unsure (hs ++ [.body s.takeBody.1]) s.takeBody.2 := by
  have hhead : (Happening.body s.takeBody.1).mark.head = none := by cases s.takeBody.1 <;> rfl
  by_cases hr : s.reader = .gone
  · refine ⟨not_over_concat h.untold ?_ (absurd hhead),
      fun hreader => absurd (Demand.gone_act hr .body) hreader⟩
    rw [Streamed.takeBody, hr]
    intro a ha
    cases ha
  · obtain ⟨ha, hu⟩ := h.underway hr
    obtain ⟨hunderway, hanswer⟩ := hu.takeBody
    exact ⟨not_over_concat h.untold hanswer (absurd hhead), fun _ => ⟨ha.takeBody, hunderway⟩⟩

theorem demand (h : Unsure hs s) (hplain : Plain hs) (d : Demand) :
    Unsure (hs ++ [d.happening s]) (d.act s) := by
  cases d with
  | head => exact h.head hplain
  | body => exact h.body
  | drop => exact ⟨not_over_concat h.untold nofun (absurd rfl),
      fun hreader => absurd (Demand.drop_act s) hreader⟩

end Unsure

end Streamed

open Streamed (Plain Over)

theorem Shared.unsure_on (op : Operation) {t : Shared}
    (h : Plain t.trace → Streamed.Unsure t.trace t.stream) (hplain : Plain (op.on t).2.trace) :
    Streamed.Unsure (op.on t).2.trace (op.on t).2.stream := by
  let P (t : Shared) : Prop := Plain t.trace → Streamed.Unsure t.trace t.stream
  refine Shared.on_keeps (P := P) h (fun _ _ h => h) ?_ ?_ hplain
  · intro t d h hplain
    exact (h hplain.of_append).demand hplain.of_append d
  · intro t h hplain
    refine (h hplain.of_append).operate ?_
    rintro rfl
    refine hplain.unclosed ?_
    rw [Streamed.performed_append]
    exact List.mem_append_right _ List.mem_cons_self

theorem Shared.gone_on (op : Operation) {t : Shared} (h : t.left = true → t.stream.reader = .gone)
    (hleft : (op.on t).2.left = true) : (op.on t).2.stream.reader = .gone := by
  refine Shared.on_keeps (P := fun t => t.left = true → t.stream.reader = .gone) h
    (fun _ _ h => h) ?_ ?_ hleft
  · intro t d h hleft
    rcases (Bool.or_eq_true_iff).1 hleft with hleft | hleaves
    · exact Demand.gone_act (h hleft) d
    · cases d with
      | head | body => cases hleaves
      | drop => exact Demand.drop_act t.stream
  · intro t h hleft
    rw [(Streamed.kept_operate op t.stream).2]
    exact h hleft

namespace Session

theorem react_demand [Log ℓ] {s : Session ℓ} {d : Demand}
    (h : d = .head → s.stream.takeHead.1 ≠ .lost) :
    s.happens d.event = [d.happening s.stream] ∧ (s.react d.event).stream = d.act s.stream := by
  cases d with
  | head =>
    have htake := takeHead_of_held (h rfl)
    exact ⟨congrArg (fun t : Streamed.HeadAnswer × Session ℓ => [Happening.head t.1]) htake,
      congrArg (·.2.stream) htake⟩
  | body => exact ⟨rfl, rfl⟩
  | drop =>
    refine ⟨rfl, ?_⟩
    change s.drop.stream = _
    rw [drop, Demand.act]
    cases hr : s.stream.reader <;> rfl

theorem gone_react [Log ℓ] {s : Session ℓ} (h : s.aborted = true → s.stream.reader = .gone)
    {d : Demand} (ha : (s.react d.event).aborted = true) :
    (s.react d.event).stream.reader = .gone := by
  cases d with
  | head =>
    have hgone := h (s.aborted_takeHead.symm.trans ha)
    have hheld : s.stream.takeHead.1 ≠ .lost := by
      rw [Streamed.takeHead_of_gone hgone]
      exact nofun
    rw [(react_demand fun _ => hheld).2]
    exact Demand.gone_act hgone .head
  | body => exact Demand.gone_act (h ha) .body
  | drop =>
    rw [(react_demand (d := .drop) nofun).2]
    exact Demand.drop_act s.stream

theorem aborted_of_rest {s : Session ℓ} {r : Rest} (h : s.rest? = some r) : s.aborted = false := by
  rw [rest?] at h
  split at h
  · cases h
  next ha => exact Bool.eq_false_of_not_eq_true ha

end Session

namespace Race

variable [Log ℓ]

def start (handler : Handler) (q : Http.Request) (log : ℓ) (now : Clock) : Race ℓ where
  session := Session.start handler q log now

section

variable {z : Race ℓ} {plan : List (List Demand)}

theorem poll_keeps {P : Shared → Prop}
    (h : P { stream := z.session.stream, plan, trace := z.trace })
    (hon : ∀ (op : Operation) t, P t → P (op.on t).2) (r : Rest) :
    P (r.poll (z.share plan)).2.observer.inner := by
  rw [Rest.poll_operations]
  exact Operation.run_keeps hon _ h

theorem unsure_poll (h : Plain z.trace → Streamed.Unsure z.trace z.session.stream) (r : Rest) :
    let t := (r.poll (z.share plan)).2.observer.inner
    Plain t.trace → Streamed.Unsure t.trace t.stream :=
  poll_keeps (P := fun t => Plain t.trace → Streamed.Unsure t.trace t.stream) h
    (fun op _ => Shared.unsure_on op) r

theorem gone_poll (r : Rest) :
    let t := (r.poll (z.share plan)).2.observer.inner
    t.left = true → t.stream.reader = .gone :=
  poll_keeps (P := fun t => t.left = true → t.stream.reader = .gone) nofun
    (fun op _ => Shared.gone_on op) r

omit [Log ℓ] in
theorem settle_stream (polled : Stop × Exchange Shared ℓ) (z : Race ℓ) :
    (settle polled z).session.stream = polled.2.observer.inner.stream ∧
      (settle polled z).trace = polled.2.observer.inner.trace := by
  obtain ⟨stop, x⟩ := polled
  cases stop <;> exact ⟨rfl, rfl⟩

end

def Unsure (z : Race ℓ) : Prop := Plain z.trace → Streamed.Unsure z.trace z.session.stream

structure Kept (v : Http.Visit) (e? : Option Entry) (z : Race (Journal ℓ)) : Prop where
  books : Accounted v e? z.session.exchange
  silent : ∀ r, z.session.task = .running r → r.Silent
  recorded : ∀ crash, z.leaving = some (.releasing crash) → e? ≠ none
  gone : z.session.aborted = true → z.session.stream.reader = .gone

namespace Kept

variable {v : Http.Visit} {e? : Option Entry} {z : Race (Journal ℓ)}

theorem ask (h : Kept v e? z) (d : Demand) : Kept v e? (z.step (.ask d)) := by
  have hevent : (d.event : Event ℓ).journaled = d.event := by cases d <;> rfl
  have hpoll : (d.event : Event ℓ) ≠ .poll := by cases d <;> exact nofun
  have hbooks := (Session.beside_react (s := z.session) hpoll).1 h.books
  rw [hevent] at hbooks
  refine ⟨hbooks, fun r hr => ?_, h.recorded, Session.gone_react h.gone⟩
  have hpoll' : (d.event : Event (Journal ℓ)) ≠ .poll := by cases d <;> exact nofun
  rcases Session.running_react hpoll' hr with hr | ⟨p, rfl⟩
  · exact h.silent r hr
  · trivial

omit [Log ℓ] in
theorem settle (h : Kept v e? z) (hz : z.leaving = none) (ha : z.session.aborted = false)
    {polled : Stop × Exchange Shared (Journal ℓ)} {e?' : Option Entry}
    (hx : Accounted v e?' polled.2)
    (hwaits : ∀ again rest, polled.1 = .waiting again rest → rest.Silent)
    (hgone : polled.2.observer.inner.left = true → polled.2.observer.inner.stream.reader = .gone) :
    Kept v e?' (settle polled z) := by
  obtain ⟨stop, x⟩ := polled
  have hleft : (z.take x).session.aborted = true → (z.take x).session.stream.reader = .gone := by
    intro hleft
    rw [take, ha] at hleft
    exact hgone hleft
  have hbooks : Accounted v e?' (z.take x).session.exchange := ⟨hx.visit, hx.logged, hx.asked⟩
  cases stop with
  | waiting again rest =>
    refine ⟨hbooks, fun r hr => ?_, fun crash hcrash => ?_, hleft⟩
    · cases hr
      exact hwaits again rest rfl
    · cases hz.symm.trans hcrash
  | returned => exact ⟨hbooks, h.silent, (fun _ hcrash => by cases hcrash), hleft⟩
  | crashed message => exact ⟨hbooks, h.silent, (fun _ hcrash => by cases hcrash), hleft⟩

theorem poll (h : Kept v e? z) (hz : z.leaving = none) (plan : List (List Demand)) :
    ∃ e?', Kept v (e?.or e?') (z.pollTask plan) := by
  unfold pollTask
  split
  next r hrest =>
    have hr : r.Silent := by
      rcases Session.rest?_cases hrest with hrunning | ⟨p, rfl⟩
      · exact h.silent r hrunning
      · trivial
    have hbooks :=
      Rest.accounted_poll (x := z.share plan) ⟨h.books.visit, h.books.logged, h.books.asked⟩ hr
    refine ⟨_, h.settle hz (Session.aborted_of_rest hrest) hbooks (fun again rest hstop => ?_)
      (gone_poll r)⟩
    exact Rest.poll_waiting (Prod.ext hstop rfl)
  next =>
    refine ⟨none, ?_⟩
    rw [Option.or_none]
    split
    · exact ⟨h.books, h.silent, (fun _ hcrash => by cases hcrash), h.gone⟩
    next ha ht =>
      have hcancel : z.session.cancel =
          { z.session.setStream (Transport.release false z.session.stream) with
            task := .ended none } := by
        rw [Session.cancel, ht]
      rw [hcancel]
      refine ⟨h.books.unrecorded (.setInner _ _), (fun _ hr => by cases hr), h.recorded,
        fun _ => ?_⟩
      exact (Streamed.reader_release false _).trans (h.gone ha)
    · exact h

theorem record (h : Kept v e? z) (e : End) :
    Kept v (some (e?.getD z.session.exchange.closing)) (z.record e) where
  books := h.books.record z.session.exchange.closing
  silent := h.silent
  recorded _ _ := nofun
  gone ha := by
    have hinner := Exchange.inner_record z.session.exchange.closing z.session.exchange
    exact (congrArg Streamed.reader hinner).trans (h.gone ha)

omit [Log ℓ] in
theorem release (h : Kept v e? z) {crash : Option String} : Kept v e? (z.release crash) where
  books := ⟨h.books.visit, h.books.logged, h.books.asked⟩
  silent := nofun
  recorded := nofun
  gone ha := (Streamed.reader_release _ _).trans (h.gone ha)

omit [Log ℓ] in
theorem turn (h : Kept v e? z) (p : Program) :
    Kept v e? { z with session := z.session.turn p } := by
  unfold Session.turn
  split
  next ht =>
    refine ⟨h.books, fun r hr => ?_, h.recorded, h.gone⟩
    cases hr
    trivial
  next => exact h

theorem step (h : Kept v e? z) (st : Step ℓ) : ∃ e?', Kept v (e?.or e?') (z.step st.journaled) := by
  have hsame {z' : Race (Journal ℓ)} (h : Kept v e? z') : ∃ e?', Kept v (e?.or e?') z' :=
    ⟨none, by rwa [Option.or_none]⟩
  cases st with
  | ask d => exact hsame (h.ask d)
  | elsewhere log now =>
    exact hsame ⟨(Session.Aside.elsewhere log now z.session).books h.books, h.silent,
      h.recorded, h.gone⟩
  | poll plan =>
    rw [Step.journaled, Race.step]
    split
    next hz => exact h.poll hz plan
    next => exact hsame h
  | record =>
    rw [Step.journaled, Race.step]
    split
    next e _ =>
      have hrecord := h.record e
      cases e? with
      | none => exact ⟨_, hrecord⟩
      | some => exact hsame hrecord
    next => exact hsame h
  | release =>
    rw [Step.journaled, Race.step]
    split
    next => exact hsame h.release
    next => exact hsame h
  | turn p =>
    rw [Step.journaled, Race.step]
    split
    next => exact hsame (h.turn p)
    next => exact hsame h

end Kept

section

variable {v : Http.Visit} {z : Race (Journal ℓ)}

theorem unsure_pollTask (h : Kept v none z) (hz : z.Unsure) (plan : List (List Demand)) :
    (z.pollTask plan).Unsure := by
  unfold pollTask
  split
  next r _ =>
    obtain ⟨hstream, htrace⟩ := settle_stream (r.poll (z.share plan)) z
    rw [Race.Unsure, hstream, htrace]
    exact unsure_poll hz r
  next =>
    split
    · exact hz
    next ha ht =>
      have hgone : z.session.cancel.stream.reader = .gone := by
        rw [Session.cancel, ht]
        exact (Streamed.reader_release false _).trans (h.gone ha)
      intro hplain
      exact ⟨Streamed.not_over_concat (hz hplain.of_append).untold (fun _ ha => by cases ha)
        (absurd rfl), (absurd hgone ·)⟩
    · exact hz

theorem unsure_step (h : Kept v none z) (hz : z.Unsure) (st : Step ℓ) :
    (z.step st.journaled).Unsure := by
  cases st with
  | ask d =>
    intro hplain
    have hunsure := hz hplain.of_append
    obtain ⟨hhappens, hstream⟩ :=
      Session.react_demand (s := z.session) (d := d) fun _ => hunsure.held
    rw [Step.journaled, Race.step, hhappens, hstream]
    exact hunsure.demand hplain.of_append d
  | elsewhere log now => exact hz
  | poll plan =>
    rw [Step.journaled, Race.step]
    split
    next => exact unsure_pollTask h hz plan
    next => exact hz
  | record =>
    rw [Step.journaled, Race.step]
    split
    next e _ =>
      have hinner : (z.record e).session.stream = z.session.stream :=
        Exchange.inner_record z.session.exchange.closing z.session.exchange
      rw [Race.Unsure, hinner]
      exact hz
    next => exact hz
  | release =>
    rw [Step.journaled, Race.step]
    split
    next crash hcrash => exact absurd rfl (h.recorded crash hcrash)
    next => exact hz
  | turn p =>
    rw [Step.journaled, Race.step]
    split
    · rw [Race.Unsure, Session.turn]
      split <;> exact hz
    · exact hz

theorem kept_run (h : Kept v none z) (hz : z.Unsure) (steps : List (Step ℓ)) :
    let z' := z.run (steps.map .journaled)
    ∃ e?, Kept v e? z' ∧ (e? = none → z'.Unsure) := by
  induction steps using List.reverseRecOn with
  | nil => exact ⟨none, h, fun _ => hz⟩
  | append_singleton steps st ih =>
    obtain ⟨e?, hkept, hunsure⟩ := ih
    obtain ⟨e?', hstep⟩ := hkept.step st
    rw [List.map_append, run, List.foldl_append]
    refine ⟨_, hstep, fun hnone => ?_⟩
    obtain ⟨rfl, -⟩ := Option.or_eq_none_iff.1 hnone
    exact unsure_step hkept (hunsure rfl) st

end

theorem unsure_start (handler : Handler) (q : Http.Request) (log : ℓ) (now : Clock) :
    (start handler q log now).Unsure := by
  intro _
  have hstays : .drop ∉ ([] : List (Event ℓ)) := nofun
  have hanswering : Streamed.Answering [] none (.forRequest q) :=
    Session.answering_start handler q log now hstays
  have hunderway : Streamed.Underway (Streamed.run [] (.forRequest q)).2 :=
    Streamed.underway_run q nofun rfl
  exact ⟨nofun, fun _ => ⟨hanswering, hunderway⟩⟩

omit [Log ℓ] in
theorem steps_journaled (es : List (Event ℓ)) :
    (es.flatMap Event.steps).map Step.journaled = (es.map Event.journaled).flatMap Event.steps := by
  induction es with
  | nil => rfl
  | cons e es ih =>
    rw [List.flatMap_cons, List.map_append, ih]
    cases e <;> rfl

theorem asked_of_over (handler : Handler) (q : Http.Request) (log : ℓ) (now : Clock)
    (steps : List (Step ℓ)) (last : Step ℓ) :
    let z := (start handler q (⟨log, []⟩ : Journal ℓ) now).run (steps.map .journaled)
    let told := (z.step last.journaled).trace
    Plain told → Over told →
      ∃ stamp e, z.session.exchange.log.asked = [(⟨stamp, q.visit, e⟩ : Record).bytes] := by
  intro z told hplain hover
  have hstart : Kept q.visit none (start handler q (⟨log, []⟩ : Journal ℓ) now) :=
    ⟨⟨rfl, rfl, now.stamp, rfl⟩, nofun, nofun, nofun⟩
  obtain ⟨e?, hkept, hunsure⟩ := kept_run hstart (unsure_start handler q _ now) steps
  cases e? with
  | none => exact absurd hover (unsure_step hkept (hunsure rfl) last hplain).untold
  | some e =>
    obtain ⟨stamp, hasked⟩ := hkept.books.asked
    exact ⟨stamp, e, hasked⟩

/-- Whatever the client and the task do in whatever order, if the handler neither closes the body
nor hands the connection over, then the log was asked for the record before the step in which the
client is told how the response ended. -/
theorem recorded_before_end (handler : Handler) (q : Http.Request) (log : ℓ) (now : Clock) :
    (∀ (steps : List (Step ℓ)) (last : Step ℓ),
      let z := (start handler q (⟨log, []⟩ : Journal ℓ) now).run (steps.map .journaled)
      let told := (z.step last.journaled).trace
      Plain told → Over told →
      ∃ stamp e, z.session.exchange.log.asked = [(⟨stamp, q.visit, e⟩ : Record).bytes]) ∧
    ∀ es : List (Event ℓ),
      let told := (Session.start handler q (⟨log, []⟩ : Journal ℓ) now).trace (es.map .journaled)
      Plain told → Over told →
      ∃ stamp e, (Session.play handler q log now es).exchange.log.asked =
        [(⟨stamp, q.visit, e⟩ : Record).bytes] := by
  refine ⟨asked_of_over handler q log now, fun es => ?_⟩
  have hrace := asked_of_over handler q log now (es.flatMap Event.steps) (.elsewhere id id)
  have hrun := run_events (z := start handler q (⟨log, []⟩ : Journal ℓ) now) rfl (es.map .journaled)
  rw [steps_journaled, hrun] at hrace
  exact hrace

theorem recorded_before_end_of_served :
    let served : Handler := fun _ => .sequence [.sendHead .notFound, .write [0x61]] .done
    let crashing : Handler := fun _ => .crash "boom"
    let silent : Handler := fun _ => .done
    let asked (handler : Handler) (steps : List (Step MemoryLog)) :=
      ((start handler {} (⟨{}, []⟩ : Journal MemoryLog) ⟨"T", {}⟩).run
        (steps.map .journaled)).session.exchange.log.asked
    (∃ stamp e, asked served [.ask .head, .poll [[], [.head]], .ask .body, .record, .release] =
        [(⟨stamp, ({} : Http.Request).visit, e⟩ : Record).bytes]) ∧
      (∃ stamp e, asked crashing [.ask .head, .poll [], .record, .release] =
        [(⟨stamp, ({} : Http.Request).visit, e⟩ : Record).bytes]) ∧
      ∃ stamp e, (Session.play silent {} ({} : MemoryLog) ⟨"T", {}⟩
        [.head, .poll, .head]).exchange.log.asked =
        [(⟨stamp, ({} : Http.Request).visit, e⟩ : Record).bytes] := by
  intro served crashing silent asked
  let told (handler : Handler) (steps : List (Step MemoryLog)) (last : Step MemoryLog) :=
    (((start handler {} (⟨{}, []⟩ : Journal MemoryLog) ⟨"T", {}⟩).run
      (steps.map .journaled)).step last.journaled).trace
  let empty := (Session.start silent {} (⟨{}, []⟩ : Journal MemoryLog) ⟨"T", {}⟩).trace
    (([.head, .poll, .head] : List (Event MemoryLog)).map .journaled)
  have hserved :
    told served [.ask .head, .poll [[], [.head]], .ask .body, .record, .release] (.ask .body) =
    [.head .waiting, .operated (.sendHead .notFound) (.sent []), .head (.head ⟨.notFound, {}⟩),
    .operated (.write [0x61]) (.wrote (.done (.ok 1))), .body (.chunk [0x61]), .released false,
    .body .finished] := by
    unfold served
    rfl
  have hcrashed : told crashing [.ask .head, .poll [], .record, .release] (.ask .head) =
    [.head .waiting, .released true, .head (.head Session.bareError)] := rfl
  have hsilent : empty = [.head .waiting, .released false, .head (.head ⟨.ok, {}⟩)] := rfl
  obtain ⟨hplain, hover⟩ : Plain (told served _ _) ∧ Over (told served _ _) := by
    rw [hserved]
    exact ⟨⟨by simp [Streamed.performed, Happening.operation?], by rintro head ⟨⟩; decide⟩,
      .finished (by simp [Streamed.answers, Happening.answer?])⟩
  obtain ⟨hplain', hover'⟩ : Plain (told crashing _ _) ∧ Over (told crashing _ _) := by
    rw [hcrashed]
    exact ⟨⟨List.not_mem_nil, by rintro head ⟨⟩⟩, .unsettled (List.cons_ne_nil _ _) rfl⟩
  obtain ⟨hplain'', hover''⟩ : Plain empty ∧ Over empty := by
    rw [hsilent]
    exact ⟨⟨List.not_mem_nil, by rintro head ⟨⟩⟩, .unsettled (List.cons_ne_nil _ _) rfl⟩
  exact ⟨(recorded_before_end served {} ({} : MemoryLog) ⟨"T", {}⟩).1 _ _ hplain hover,
    (recorded_before_end crashing {} ({} : MemoryLog) ⟨"T", {}⟩).1 _ _ hplain' hover',
    (recorded_before_end silent {} ({} : MemoryLog) ⟨"T", {}⟩).2 _ hplain'' hover''⟩

end Race

end AccessTrail
