import AccessTrail.Proofs.Session.Precedence
import AccessTrail.Proofs.Transport.Granted
import AccessTrail.Proofs.Transport.Shared

namespace AccessTrail

namespace Streamed

/-- The operations so far were granted, and what the client has got of them is what came first. -/
structure Supplied (ops : List Operation) (hs : List Happening) (crashed? : Option Bool)
    (s : Streamed) : Prop where
  answering : Answering hs crashed? s
  sound : Sound hs s.channel
  performed : performed hs = ops
  accepted : (accepted hs).flatten = Operation.written ops
  few : (Streamed.accepted hs).length ≤ ops.length
  whole : hs.any (·.mark.crash) = false
  got : received hs <+: Streamed.accepted hs
  bodied : (∀ head, s.head = some head → head.status ≠ .switchingProtocols) → s.closed = false

theorem supplied_start (q : Http.Request) : Supplied [] [] none (forRequest q) where
  answering := ⟨rfl, rfl, fun _ => rfl, fun _ => rfl, .waits rfl rfl⟩
  sound := sound_run q []
  performed := rfl
  accepted := rfl
  few := Nat.le_refl 0
  whole := rfl
  got := List.prefix_rfl
  bodied _ := rfl

theorem accepted_of_granted {op : Operation} {a : Answer} (h : op.Granted a) :
    (Happening.operated op a).mark.accepted.toList.flatten = Operation.written [op] := by
  cases op with
  | write bs =>
    cases h
    cases bs <;> rfl
  | _ => rfl

def Happening.isHeard : Happening → Bool
  | head _ | body _ => true
  | operated _ _ | released _ | dropped => false

theorem mark_of_isHeard {a : Happening} (h : a.isHeard) :
    a.operation? = none ∧ a.mark.accepted = none ∧ a.mark.crash = false := by
  cases a with
  | head r => cases r <;> exact ⟨rfl, rfl, rfl⟩
  | body r => cases r <;> exact ⟨rfl, rfl, rfl⟩
  | operated | released | dropped => cases h

namespace Supplied

variable {ops : List Operation} {hs : List Happening} {crashed? : Option Bool} {s : Streamed}

theorem holds (h : Supplied ops hs crashed? s) (hclosed : s.closed = false) :
    s.reader = .awaiting ∨ s.reader = .reading := by
  have hends : hs.any Happening.ends = false := h.sound.closed.symm.trans hclosed
  refine h.sound.reader.1 ?_
  rw [List.any_eq_false] at hends ⊢
  exact fun a ha hgo => hends a ha (Bool.or_eq_true_iff.2 (.inr hgo))

theorem books (h : Supplied ops hs crashed? s)
    (hholds : s.reader = .awaiting ∨ s.reader = .reading) :
    received hs ++ s.channel.unread = Streamed.accepted hs :=
  h.sound.books (h.sound.reader.2 hholds)

theorem length_queue (h : Supplied ops hs crashed? s)
    (hholds : s.reader = .awaiting ∨ s.reader = .reading) :
    s.queue.length ≤ ops.length := by
  have hchunks : (s.channel.unread.map Part.chunk).length = s.queue.length :=
    congrArg List.length (Part.map_chunk (h.sound.whole h.whole))
  have hbooks := congrArg List.length (h.books hholds)
  rw [List.length_append] at hbooks
  rw [List.length_map] at hchunks
  have hfew := h.few
  omega

theorem granted (h : Supplied ops hs none s) (hroom : ops.length ≤ capacity) {op : Operation}
    (hstays : op ≠ .handOver)
    (hbodied : ∀ bs, op = .write bs → ∀ head, s.head = some head →
      head.status ≠ .switchingProtocols) :
    op.Granted (op.on s).1 := by
  cases op with
  | headers | edit | sendHead => trivial
  | flush | close => rfl
  | handOver => exact absurd rfl hstays
  | write bs =>
    cases bs with
    | nil => rfl
    | cons b bs =>
      have hclosed : s.closed = false := h.bodied (hbodied _ rfl)
      have hlength : s.queue.length ≤ capacity := (h.length_queue (h.holds hclosed)).trans hroom
      have hanswer := h.sound.write b bs
      rw [if_neg (by rw [← show s.closed = _ from h.sound.closed, hclosed]; decide),
        if_neg (by omega)] at hanswer
      exact congrArg Answer.wrote hanswer

theorem operate (h : Supplied ops hs none s) {op : Operation} (hop : op ≠ .close)
    (hgranted : op.Granted (op.on s).1) :
    Supplied (ops ++ [op]) (hs ++ [.operated op (op.on s).1]) none (op.on s).2 := by
  let a : Happening := .operated op (op.on s).1
  have hquiet : heads [a] = [] ∧ received [a] = [] := quiet_operations [op] s
  refine ⟨h.answering.operations [op], h.sound.step (.operate op), ?_, ?_, ?_, ?_, ?_,
    fun hhead => ?_⟩
  · rw [performed_append, h.performed]
    rfl
  · rw [accepted_concat, List.flatten_append, h.accepted, accepted_of_granted hgranted,
      Operation.written_append]
  · have hone : a.mark.accepted.toList.length ≤ 1 := by cases a.mark.accepted <;> simp
    rw [accepted_concat, List.length_append, List.length_append]
    exact Nat.add_le_add h.few hone
  · have hcrash : a.mark.crash = false := by
      simp only [a, Happening.mark]
      split <;> simp_all
    rw [List.any_append, h.whole, List.any_cons, hcrash]
    rfl
  · rw [received_append, hquiet.2, List.append_nil, accepted_concat]
    exact h.got.trans (List.prefix_append _ _)
  · rw [(open_operate hop s).1]
    refine h.bodied fun head hs => hhead head ?_
    exact (effect_on (.operate op) s).head_kept hs

theorem hear (h : Supplied ops hs crashed? s) {a : Happening} {s' : Streamed} (hheard : a.isHeard)
    (hanswering : Answering (hs ++ [a]) crashed? s') (hsound : Sound (hs ++ [a]) s'.channel)
    (hgot : received (hs ++ [a]) <+: Streamed.accepted hs)
    (hbodied : (∀ head, s'.head = some head → head.status ≠ .switchingProtocols) →
      s'.closed = false) :
    Supplied ops (hs ++ [a]) crashed? s' := by
  obtain ⟨hop, hnothing, hcrash⟩ := mark_of_isHeard hheard
  have haccepted : Streamed.accepted (hs ++ [a]) = Streamed.accepted hs := by
    rw [accepted_concat, hnothing, Option.toList_none, List.append_nil]
  refine ⟨hanswering, hsound, ?_, by rw [haccepted, h.accepted], by rw [haccepted]; exact h.few, ?_,
    by rwa [haccepted], hbodied⟩
  · have hnone : Streamed.performed [a] = [] := by
      rw [Streamed.performed, List.filterMap_cons, hop]; rfl
    rw [performed_append, h.performed, hnone, List.append_nil]
  · rw [List.any_append, h.whole, List.any_cons, hcrash]
    rfl

theorem takeHead (h : Supplied ops hs crashed? s) (hcrash : crashed? ≠ some true) :
    Supplied ops (hs ++ [.head s.takeHead.1]) crashed? s.takeHead.2 := by
  have hsound : Sound (hs ++ [.head s.takeHead.1]) s.takeHead.2.channel := h.sound.step .takeHead
  have hlost : s.takeHead.1 ≠ .lost := fun hlost => hcrash (h.answering.crashed_of_lost hlost).1
  have hgot : received (hs ++ [.head s.takeHead.1]) <+: Streamed.accepted hs := by
    rw [received_append]
    cases s.takeHead.1 <;> exact (List.append_nil _).symm ▸ h.got
  have htakes := s.takes
  generalize s.takeHead = taken at hsound hlost hgot htakes ⊢
  cases htakes with
  | lost => exact absurd rfl hlost
  | unexpected | waiting => exact h.hear rfl (h.answering.idle rfl rfl) hsound hgot h.bodied
  | head hr hhead =>
    exact h.hear rfl (h.answering.answer hr fun _ hh => .told (.inl rfl) hhead hh) hsound
      hgot h.bodied
  | switch hr hhead hstatus =>
    have hshort := h.answering.shorten [] (fun _ => rfl) true
    exact h.hear rfl (hshort.answer hr fun _ hh => .told (.inr rfl) hhead hh) hsound hgot
      fun hbodied =>
      absurd hstatus (hbodied _ hhead)

theorem takeBody (h : Supplied ops hs crashed? s) :
    Supplied ops (hs ++ [.body s.takeBody.1]) crashed? s.takeBody.2 := by
  have hsound : Sound (hs ++ [.body s.takeBody.1]) s.takeBody.2.channel := h.sound.step .takeBody
  have hkept : s.takeBody.2.head = s.head ∧ s.takeBody.2.closed = s.closed := by
    unfold Streamed.takeBody
    split <;> exact ⟨rfl, rfl⟩
  have hgot : received (hs ++ [.body s.takeBody.1]) <+: Streamed.accepted hs := by
    rw [received_append]
    unfold Streamed.takeBody
    split
    next bs rest hr hq =>
      have hbooks := h.books (.inr hr)
      have hunread : s.channel.unread = bs :: rest.filterMap Part.chunk? := by
        rw [Channel.unread, show s.channel.queue = .chunk bs :: rest from hq]
        rfl
      rw [hunread, List.append_cons] at hbooks
      exact ⟨_, hbooks⟩
    · exact (List.append_nil _).symm ▸ h.got
    · split <;> exact (List.append_nil _).symm ▸ h.got
    all_goals exact (List.append_nil _).symm ▸ h.got
  refine h.hear rfl h.answering.takeBody hsound hgot fun hbodied => ?_
  rw [hkept.2]
  rw [hkept.1] at hbodied
  exact h.bodied hbodied

theorem release (h : Supplied ops hs none s) {head : Http.Head} (hhead : s.head = some head) :
    Supplied ops hs (some false) (Transport.release false s) := by
  have hrelease : Transport.release false s = { s with released := true } := by
    simp [Transport.release, finish, hhead]
  have hsettled : settled hs = some head := (h.answering.head.trans Option.or_none).symm.trans hhead
  rw [hrelease]
  refine ⟨⟨rfl, ?_, fun hnone => ?_, fun hnone => ?_, ?_⟩, h.sound, h.performed, h.accepted, h.few,
    h.whole, h.got, h.bodied⟩
  · rw [hsettled]
    exact hhead
  · cases hhead.symm.trans hnone
  · cases hsettled.symm.trans hnone
  · cases h.answering.asked with
    | waits hr hh => exact .waits hr hh
    | told hr hs hh => exact .told hr hs hh
    | refused _ hnone => cases hnone.symm.trans hhead

theorem read_of_finished (h : Supplied ops hs (some false) s) (hfinished : s.takeBody.1 = .finished)
    {head : Http.Head} (hhead : s.head = some head)
    (hbodied : head.status = .switchingProtocols → Operation.written ops = []) :
    heads hs = [head] ∧ (received hs).flatten = Operation.written ops := by
  have hheads : heads hs = [head] := by
    cases h.answering.asked with
    | waits hr =>
      rw [Streamed.takeBody, hr] at hfinished
      cases hfinished
    | told _ hs hh => rw [hh, Option.some.inj (hs.symm.trans hhead)]
    | refused _ hnone => cases hnone.symm.trans hhead
  refine ⟨hheads, ?_⟩
  by_cases hstatus : head.status = .switchingProtocols
  · obtain ⟨rest, hrest⟩ := h.got
    have hnothing := h.accepted
    rw [hbodied hstatus, ← hrest, List.flatten_append] at hnothing
    rw [hbodied hstatus]
    exact (List.append_eq_nil_iff.1 hnothing).1
  · have hclosed : s.closed = false := h.bodied fun other hother => by
      rwa [← Option.some.inj (hhead.symm.trans hother)]
    have hbooks := h.books (h.holds hclosed)
    obtain ⟨-, hqueue⟩ := reading_of_finished (h.holds hclosed) hfinished
    rw [Channel.unread, channel, hqueue, List.filterMap_nil, List.append_nil] at hbooks
    rw [hbooks, h.accepted]

theorem demand (h : Supplied ops hs crashed? s) (hcrash : crashed? ≠ some true) {d : Demand}
    (hstays : d ≠ .drop) :
    Supplied ops (hs ++ [d.happening s]) crashed? (d.act s) := by
  cases d with
  | head => exact h.takeHead hcrash
  | body => exact h.takeBody
  | drop => exact absurd rfl hstays

theorem head_eq (h : Supplied ops hs none s) : s.head = Operation.head? {} ops := by
  rw [h.answering.head, settled, h.performed]
  exact Option.or_none

theorem head_of_head? (h : Supplied ops hs crashed? s) {head : Http.Head}
    (hhead : Operation.head? {} ops = some head) :
    s.head = some head := by
  rw [h.answering.head, settled, h.performed, hhead]
  rfl

end Supplied

def acts (ds : List Demand) (s : Streamed) : Streamed := ds.foldl (fun s d => d.act s) s

theorem finished_of_acts {s : Streamed} (hreleased : s.released = true) {n : Nat}
    (hreader : s.reader = .reading ∧ s.queue.length ≤ n ∨ s.reader = .bodiless) :
    (acts (List.replicate n .body) s).takeBody.1 = .finished := by
  induction n generalizing s with
  | zero =>
    change s.takeBody.1 = .finished
    rcases hreader with ⟨hr, hn⟩ | hr
    · simp [takeBody, hr, List.length_eq_zero_iff.1 (Nat.le_zero.1 hn), hreleased]
    · simp [takeBody, hr]
  | succ n ih =>
    change (acts (List.replicate n .body) s.takeBody.2).takeBody.1 = .finished
    rcases hreader with ⟨hr, hn⟩ | hr
    · cases hq : s.queue with
      | nil =>
        have hsame : s.takeBody.2 = s := by rw [takeBody, hr, hq]
        rw [hsame]
        exact ih hreleased (.inl ⟨hr, by simp [hq]⟩)
      | cons p rest =>
        rw [Left.takeBody_cons hr hq]
        rw [hq, List.length_cons] at hn
        exact ih hreleased (.inl ⟨hr, Nat.le_of_succ_le_succ hn⟩)
    · have hsame : s.takeBody.2 = s := by rw [takeBody, hr]
      rw [hsame]
      exact ih hreleased (.inr hr)

theorem act_of_untouched {s : Streamed} (hreader : s.reader = .awaiting) (hhead : s.head = none)
    (hreleased : s.released = false) {d : Demand} (hstays : d ≠ .drop) : d.act s = s := by
  cases d with
  | head => rw [Demand.act, takeHead, hreader, hhead, hreleased]; rfl
  | body => rw [Demand.act, takeBody, hreader]
  | drop => exact absurd rfl hstays

theorem acts_of_untouched {s : Streamed} (hreader : s.reader = .awaiting) (hhead : s.head = none)
    (hreleased : s.released = false) {ds : List Demand} (hstays : .drop ∉ ds) : acts ds s = s := by
  induction ds with
  | nil => rfl
  | cons d ds ih =>
    rw [List.mem_cons, not_or] at hstays
    rw [acts, List.foldl_cons, act_of_untouched hreader hhead hreleased (Ne.symm hstays.1)]
    exact ih hstays.2

theorem handOver_forRequest (q : Http.Request) :
    Transport.handOver (forRequest q) = q.upgrade.map fun c =>
      (.ok c, { forRequest q with handover := none }) := by
  cases hc : q.upgrade <;> simp [Transport.handOver, forRequest, hc]

theorem Supplied.finished {ops : List Operation} {hs : List Happening} {s : Streamed}
    (h : Supplied ops hs (some false) s) {head : Http.Head} (hhead : s.head = some head) {n : Nat}
    (hn : ops.length ≤ n) : (acts (.head :: List.replicate n .body) s).takeBody.1 = .finished := by
  have hreleased : s.takeHead.2.released = true := (h.takeHead (by simp)).answering.released
  refine finished_of_acts hreleased ?_
  have htakes := s.takes
  generalize s.takeHead = taken at htakes ⊢
  cases htakes with
  | waiting _ hnone | lost _ hnone => cases hhead.symm.trans hnone
  | head hr => exact .inl ⟨rfl, (h.length_queue (.inl hr)).trans hn⟩
  | switch => exact .inr rfl
  | unexpected hr =>
    cases h.answering.asked with
    | waits hwaits => exact absurd hwaits hr
    | refused hbodiless => exact .inr hbodiless
    | told hreader =>
      exact hreader.imp_left fun hreading => ⟨hreading, (h.length_queue (.inr hreading)).trans hn⟩

end Streamed

namespace Operation

def isPlain : Operation → Bool
  | edit _ | sendHead _ | write _ | flush => true
  | headers | close | handOver => false

end Operation

open Streamed (Demand Supplied)

namespace Shared

variable {ops pre : List Operation} {t : Shared} {crashed? : Option Bool}

theorem stream_demands (ds : List Demand) (t : Shared) :
    (ds.foldl demand t).stream = Streamed.acts ds t.stream ∧ (ds.foldl demand t).plan = t.plan := by
  induction ds generalizing t with
  | nil => exact ⟨rfl, rfl⟩
  | cons d ds ih => exact ih (t.demand d)

theorem supplied_demands (h : Supplied ops t.trace crashed? t.stream)
    (hcrash : crashed? ≠ some true) {ds : List Demand} (hstays : .drop ∉ ds) :
    Supplied ops (ds.foldl demand t).trace crashed? (ds.foldl demand t).stream := by
  induction ds generalizing t with
  | nil => exact h
  | cons d ds ih =>
    rw [List.mem_cons, not_or] at hstays
    exact ih (t := t.demand d) (h.demand hcrash (Ne.symm hstays.1)) hstays.2

structure Attends (ops : List Operation) (t : Shared) : Prop where
  supplied : Supplied ops t.trace none t.stream
  stays : ∀ ds ∈ t.plan, .drop ∉ ds

theorem Attends.meet (h : Attends ops t) : Attends ops t.meet := by
  unfold Shared.meet
  split
  · exact h
  next ds plan hplan =>
    have hstays := h.stays
    rw [hplan, List.forall_mem_cons] at hstays
    refine ⟨supplied_demands (t := { t with plan }) h.supplied nofun hstays.1, ?_⟩
    rw [(stream_demands ds { t with plan }).2]
    exact hstays.2

theorem Attends.operate (h : Attends ops t) {op : Operation} (hop : op ≠ .close)
    (hgranted : op.Granted (op.on t.meet.stream).1) : Attends (ops ++ [op]) (t.operate op) :=
  ⟨h.meet.supplied.operate hop hgranted, h.meet.stays⟩

theorem on_of_isPlain {op : Operation} (hop : op.isPlain) (t : Shared) :
    op.on t = ((op.on t.meet.stream).1, t.operate op) := by
  cases op with
  | headers | close | handOver => cases hop
  | edit | sendHead | write | flush => rfl

theorem Attends.run (h : Attends pre t) (hplain : ∀ op ∈ ops, op.isPlain)
    (hroom : pre.length + ops.length ≤ Streamed.capacity)
    (hbodied : ∀ bs, .write bs ∈ ops → ∀ head, Operation.head? {} (pre ++ ops) = some head →
      head.status ≠ .switchingProtocols) :
    Transport.Grants ops t ∧ Attends (pre ++ ops) (Operation.run ops t).2 := by
  induction ops generalizing pre t with
  | nil => exact ⟨trivial, (List.append_nil pre).symm ▸ h⟩
  | cons op ops ih =>
    rw [List.forall_mem_cons] at hplain
    rw [List.length_cons] at hroom
    have hgranted : op.Granted (op.on t.meet.stream).1 := by
      refine h.meet.supplied.granted (by omega) (by rintro rfl; cases hplain.1) ?_
      rintro bs rfl head hhead
      refine hbodied bs List.mem_cons_self head ?_
      rw [Operation.head?_append, ← h.meet.supplied.head_eq, hhead]
      rfl
    have hclose : op ≠ .close := by
      rintro rfl
      cases hplain.1
    have hrest := ih (h.operate hclose hgranted) hplain.2
      (by rw [List.length_append]
          exact (Nat.add_assoc ..).trans_le (by simpa [Nat.add_comm] using hroom))
      (by
        intro bs hbs
        rw [← List.append_cons]
        exact hbodied bs (List.mem_cons_of_mem _ hbs))
    rw [Transport.Grants, Operation.run, on_of_isPlain hplain.1, List.append_cons]
    exact ⟨⟨hgranted, hrest.1⟩, hrest.2⟩

section

variable {q : Http.Request} {plan : List (List Demand)} (hstays : ∀ ds ∈ plan, .drop ∉ ds)

include hstays

theorem attends_start : Attends [] { stream := .forRequest q, plan } :=
  ⟨Streamed.supplied_start q, hstays⟩

theorem meet_start : ({ stream := .forRequest q, plan } : Shared).meet.stream = .forRequest q := by
  unfold Shared.meet
  split
  · rfl
  next ds rest hplan =>
    have hds : .drop ∉ ds :=
      hstays ds (by rw [show plan = ds :: rest from hplan]; exact List.mem_cons_self)
    rw [(stream_demands ds _).1]
    exact Streamed.acts_of_untouched rfl rfl rfl hds

theorem handOver_start :
    Transport.handOver ({ stream := .forRequest q, plan } : Shared) =
      q.upgrade.map fun c => (.ok c, operate .handOver { stream := .forRequest q, plan }) := by
  let t : Shared := { stream := .forRequest q, plan }
  change (Transport.handOver t.meet.stream).map (fun r => (r.1, t.operate .handOver)) = _
  rw [meet_start hstays, Streamed.handOver_forRequest, Option.map_map]
  rfl

theorem attends_handOver {c : Http.Handover} (hc : q.upgrade = some c) :
    let t : Shared := { stream := .forRequest q, plan }
    Operation.handOver.Granted (Operation.handOver.on t).1 ∧
      Attends [.handOver] (Operation.handOver.on t).2 := by
  intro t
  have hon : Operation.handOver.on t = (.handed (.ok c), t.operate .handOver) := by
    rw [Operation.on, handOver_start hstays, hc]
    rfl
  have hinner : (Operation.handOver.on t.meet.stream).1 = .handed (.ok c) := by
    rw [Operation.on, meet_start hstays, Streamed.handOver_forRequest, hc]
    rfl
  rw [hon]
  exact ⟨⟨c, rfl⟩, (attends_start hstays).operate (fun h => by cases h) ⟨c, hinner⟩⟩

end

end Shared

end AccessTrail
