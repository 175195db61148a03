import AccessTrail.Proofs.Transport.Operation
import AccessTrail.Transport.Streamed

namespace AccessTrail

def Part.chunk? : Part → Option Bytes
  | chunk bs => some bs
  | broken => none

theorem Part.map_chunk {ps : List Part} (h : .broken ∉ ps) :
    (ps.filterMap chunk?).map chunk = ps := by
  induction ps with
  | nil => rfl
  | cons p ps ih =>
    rw [List.mem_cons, not_or] at h
    cases p with
    | chunk bs => exact congrArg (chunk bs :: ·) (ih h.2)
    | broken => exact absurd rfl h.1

namespace Streamed

inductive Step
  | operate : Operation → Step
  | release : (crashed : Bool) → Step
  | takeHead
  | takeBody
  | dropReader

inductive Happening
  | operated : Operation → Answer → Happening
  | released : (crashed : Bool) → Happening
  | head : HeadAnswer → Happening
  | body : BodyAnswer → Happening
  | dropped

def on (e : Step) (s : Streamed) : Happening × Streamed :=
  match e with
  | .operate op => (.operated op (op.on s).1, (op.on s).2)
  | .release crashed => (.released crashed, Transport.release crashed s)
  | .takeHead => (.head s.takeHead.1, s.takeHead.2)
  | .takeBody => (.body s.takeBody.1, s.takeBody.2)
  | .dropReader => (.dropped, s.dropReader)

def run : List Step → Streamed → List Happening × Streamed
  | [], s => ([], s)
  | e :: es, s =>
    let (hs, s') := run es (on e s).2
    ((on e s).1 :: hs, s')

theorem run_append (es es' : List Step) (s : Streamed) :
    run (es ++ es') s = ((run es s).1 ++ (run es' (run es s).2).1, (run es' (run es s).2).2) := by
  induction es generalizing s with
  | nil => rfl
  | cons e es ih => simp [run, ih]

theorem run_operations (ops : List Operation) (s : Streamed) :
    (run (ops.map .operate) s).2 = (Operation.run ops s).2 := by
  induction ops generalizing s with
  | nil => rfl
  | cons op ops ih => exact ih _

structure Mark where
  accepted : Option Bytes := none
  received : Option Bytes := none
  head : Option Http.Head := none
  crash : Bool := false
  shuts : Bool := false
  letsGo : Bool := false

def Happening.mark : Happening → Mark
  | operated (.write (b :: bs)) (.wrote (.done (.ok _))) => { accepted := some (b :: bs) }
  | operated .close _ => { shuts := true }
  | released crashed => { crash := crashed }
  | head (.head h) => { head := some h, letsGo := h.status = .switchingProtocols }
  | head .lost | dropped => { letsGo := true }
  | body (.chunk bs) => { received := some bs }
  | _ => {}

def Happening.ends (h : Happening) : Bool := h.mark.shuts || h.mark.letsGo

def accepted (hs : List Happening) : List Bytes := hs.filterMap (·.mark.accepted)

def received (hs : List Happening) : List Bytes := hs.filterMap (·.mark.received)

def heads (hs : List Happening) : List Http.Head := hs.filterMap (·.mark.head)

section

variable (hs : List Happening) (h : Happening)

@[simp] theorem accepted_concat : accepted (hs ++ [h]) = accepted hs ++ h.mark.accepted.toList := by
  simp only [accepted, List.filterMap_append, List.filterMap_cons, List.filterMap_nil]
  cases h.mark.accepted <;> rfl

@[simp] theorem received_concat : received (hs ++ [h]) = received hs ++ h.mark.received.toList := by
  simp only [received, List.filterMap_append, List.filterMap_cons, List.filterMap_nil]
  cases h.mark.received <;> rfl

@[simp] theorem heads_concat : heads (hs ++ [h]) = heads hs ++ h.mark.head.toList := by
  simp only [heads, List.filterMap_append, List.filterMap_cons, List.filterMap_nil]
  cases h.mark.head <;> rfl

end

structure Channel where
  head : Option Http.Head
  queue : List Part
  closed : Bool
  reader : Reader

def channel (s : Streamed) : Channel := ⟨s.head, s.queue, s.closed, s.reader⟩

namespace Channel

def unread (c : Channel) : List Bytes := c.queue.filterMap Part.chunk?

def hungUp (r : Reader) (c : Channel) : Channel :=
  { c with queue := [], closed := true, reader := r }

/-- All that a step can do to the channel, and what it then adds to the books. -/
inductive Effect (c : Channel) : Mark → Channel → Prop
  | still : Effect c {} c
  | commit (first : Http.Head) : Effect c {} { c with head := some (c.head.getD first) }
  | accept {b bs} (first : Http.Head) : c.closed = false → c.queue.length ≤ capacity →
    Effect c { accepted := some (b :: bs) }
      { c with head := some (c.head.getD first), queue := c.queue ++ [.chunk (b :: bs)] }
  | shut : Effect c { shuts := true } { c with closed := true }
  | unbroken (crash : Bool) : Effect c { crash } c
  | crash {h} : c.head = some h → c.queue.length ≤ capacity →
    Effect c { crash := true } { c with queue := c.queue ++ [.broken] }
  | head {h} : c.reader = .awaiting → c.head = some h → h.status ≠ .switchingProtocols →
    Effect c { head := some h } { c with reader := .reading }
  | switch {h} : c.reader = .awaiting → c.head = some h → h.status = .switchingProtocols →
    Effect c { head := some h, letsGo := true } (c.hungUp .bodiless)
  | chunk {bs rest} : c.reader = .reading → c.queue = .chunk bs :: rest →
    Effect c { received := some bs } { c with queue := rest }
  | broken {rest} : c.reader = .reading → c.queue = .broken :: rest →
      Effect c {} { c with queue := rest }
  | gone : Effect c { letsGo := true } (c.hungUp .gone)

end Channel

theorem channel_commit (status : Http.Status) (s : Streamed) :
    (s.commit status).channel =
      { s.channel with head := some (s.head.getD ⟨status, s.headers⟩) } := by
  unfold commit
  split <;> next h => simp [channel, h]

@[simp] theorem queue_commit (status : Http.Status) (s : Streamed) :
    (s.commit status).queue = s.queue := congrArg Channel.queue (channel_commit status s)

@[simp] theorem closed_commit (status : Http.Status) (s : Streamed) :
    (s.commit status).closed = s.closed := congrArg Channel.closed (channel_commit status s)

theorem write_cons (b : UInt8) (bs : Bytes) (s : Streamed) :
    Transport.write (b :: bs) s =
      if s.closed then (.done (.error bodyClosed), s.commit .ok)
      else if s.isFull then (.waiting false, s.commit .ok)
      else (.done (.ok (bs.length + 1)), (s.commit .ok).push (.chunk (b :: bs))) := by
  have hfull : (s.commit .ok).isFull = s.isFull := by rw [isFull, queue_commit, isFull]
  change (s.commit .ok).enqueue (b :: bs) = _
  rw [enqueue, closed_commit, hfull]
  rfl

theorem handOver_on (s : Streamed) :
    ∃ h, (Operation.handOver.on s).2 = { s with handover := h } := by
  simp only [Operation.on, Transport.handOver]
  split
  · exact ⟨s.handover, rfl⟩
  next h =>
    split at h
    · split at h <;> cases h
      · exact ⟨none, rfl⟩
      · exact ⟨s.handover, rfl⟩
    · cases h

theorem not_isFull_iff {s : Streamed} : s.isFull = false ↔ s.queue.length ≤ capacity := by
  simp [isFull]

open Channel (Effect)

theorem effect_operate (op : Operation) (s : Streamed) :
    Effect s.channel (on (.operate op) s).1.mark (on (.operate op) s).2.channel := by
  cases op with
  | headers => exact .still
  | edit change => exact .still
  | sendHead status =>
    change Effect s.channel _ (s.commit status).channel
    rw [channel_commit]
    exact .commit _
  | write bs =>
    cases bs with
    | nil =>
      change Effect s.channel _ (s.commit .ok).channel
      rw [channel_commit]
      exact .commit _
    | cons b bs =>
      rw [on, Operation.on, write_cons]
      split
      · simp only [channel_commit]
        exact .commit _
      · split
        · simp only [channel_commit]
          exact .commit _
        · next hclosed hfull =>
          have hpush : ((s.commit .ok).push (.chunk (b :: bs))).channel =
              { (s.commit .ok).channel with queue := s.queue ++ [.chunk (b :: bs)] } := by
            simp [push, channel]
          simp only [hpush, channel_commit]
          exact .accept _ (Bool.eq_false_of_not_eq_true hclosed)
            (not_isFull_iff.1 (Bool.eq_false_of_not_eq_true hfull))
  | flush => exact .still
  | close => exact .shut
  | handOver =>
    obtain ⟨h, hs⟩ := handOver_on s
    rw [on, hs]
    exact .still

theorem effect_on (e : Step) (s : Streamed) :
    Effect s.channel (on e s).1.mark (on e s).2.channel := by
  cases e with
  | operate op => exact effect_operate op s
  | release crashed =>
    change Effect s.channel _ (s.finish crashed).channel
    unfold finish
    split
    · rw [channel_commit]
      exact .commit _
    · next hhead =>
      split
      · exact .unbroken true
      · next hfree =>
        rw [Bool.or_eq_true, not_or] at hfree
        exact .crash hhead
          (not_isFull_iff.1 (Bool.eq_false_of_not_eq_true hfree.2))
    · exact .unbroken true
    · exact .unbroken false
  | takeHead =>
    simp only [on, Streamed.takeHead]
    split
    · next hreader hhead =>
      split
      · next hstatus =>
        rw [Happening.mark, decide_eq_true hstatus]
        exact .switch hreader hhead hstatus
      · next hstatus =>
        rw [Happening.mark, decide_eq_false hstatus]
        exact .head hreader hhead hstatus
    · split
      · exact .gone
      · exact .still
    · exact .still
  | takeBody =>
    simp only [on, Streamed.takeBody]
    split
    · next hreader hqueue => exact .chunk hreader hqueue
    · next hreader hqueue => exact .broken hreader hqueue
    · split <;> exact .still
    all_goals exact .still
  | dropReader => exact .gone

/-- What the happenings so far say of the channel. -/
structure Sound (hs : List Happening) (c : Channel) : Prop where
  heads : heads hs <+: c.head.toList
  awaiting : c.reader = .awaiting → Streamed.heads hs = []
  reader : hs.any (·.mark.letsGo) = false ↔ c.reader = .awaiting ∨ c.reader = .reading
  closed : c.closed = hs.any Happening.ends
  early : c.head = none → c.queue = [] ∧ accepted hs = []
  books : hs.any (·.mark.letsGo) = false → received hs ++ c.unread = accepted hs
  bound : c.queue.length ≤ capacity + 1
  whole : hs.any (·.mark.crash) = false → .broken ∉ c.queue

namespace Channel.Effect

variable {hs : List Happening} {c c' : Channel} {h : Happening} {m : Mark}

theorem heads (he : Effect c h.mark c') (hheads : heads hs <+: c.head.toList)
    (hawaiting : c.reader = .awaiting → Streamed.heads hs = []) :
    Streamed.heads (hs ++ [h]) <+: c'.head.toList ∧
      (c'.reader = .awaiting → Streamed.heads (hs ++ [h]) = []) := by
  rw [heads_concat]
  -- each effect comes with its mark, so the mark takes the place of the happening in the cases
  generalize h.mark = m at he
  cases he with
  | commit first => cases hc : c.head <;> simp_all
  | accept first => cases hc : c.head <;> simp_all
  | _ => simp_all [hungUp]

theorem reader (he : Effect c h.mark c')
    (hreader : hs.any (·.mark.letsGo) = false ↔ c.reader = .awaiting ∨ c.reader = .reading) :
    (hs ++ [h]).any (·.mark.letsGo) = false ↔ c'.reader = .awaiting ∨ c'.reader = .reading := by
  rw [List.any_append, List.any_cons, List.any_nil]
  generalize h.mark = m at he
  cases he <;> simp_all [hungUp]

theorem closed (he : Effect c h.mark c') (hclosed : c.closed = hs.any Happening.ends) :
    c'.closed = (hs ++ [h]).any Happening.ends := by
  rw [List.any_append, List.any_cons, List.any_nil, Happening.ends]
  generalize h.mark = m at he
  cases he <;> simp_all [hungUp]

theorem early (he : Effect c h.mark c')
    (hearly : c.head = none → c.queue = [] ∧ accepted hs = []) :
    c'.head = none → c'.queue = [] ∧ accepted (hs ++ [h]) = [] := by
  rw [accepted_concat]
  generalize h.mark = m at he
  cases he <;> simp_all [hungUp]

theorem books (he : Effect c h.mark c')
    (hbooks : hs.any (·.mark.letsGo) = false → received hs ++ c.unread = accepted hs) :
    (hs ++ [h]).any (·.mark.letsGo) = false →
      received (hs ++ [h]) ++ c'.unread = accepted (hs ++ [h]) := by
  rw [List.any_append, List.any_cons, List.any_nil, accepted_concat, received_concat]
  generalize h.mark = m at he
  rw [Bool.or_eq_false_iff]
  rintro ⟨hhs, hm⟩
  have hunread := hbooks hhs
  cases he with
  | accept => simp [unread, Part.chunk?, ← hunread]
  | crash => simpa [unread, List.filterMap_cons, Part.chunk?] using hunread
  | chunk _ hqueue => simpa [unread, Part.chunk?, hqueue] using hunread
  | broken _ hqueue => simpa [unread, List.filterMap_cons, Part.chunk?, hqueue] using hunread
  | switch | gone => cases hm
  | still | commit | shut | unbroken | head => simpa [unread] using hunread

theorem bound (he : Effect c m c') (hbound : c.queue.length ≤ capacity + 1) :
    c'.queue.length ≤ capacity + 1 := by
  cases he with
  | accept _ _ hroom => simpa using hroom
  | crash _ hroom => simpa using hroom
  | chunk _ hqueue =>
    rw [hqueue] at hbound
    exact (Nat.le_succ _).trans hbound
  | broken _ hqueue =>
    rw [hqueue] at hbound
    exact (Nat.le_succ _).trans hbound
  | switch | gone => exact Nat.zero_le _
  | still | commit | shut | unbroken | head => exact hbound

theorem whole (he : Effect c h.mark c')
    (hwhole : hs.any (·.mark.crash) = false → .broken ∉ c.queue) :
    (hs ++ [h]).any (·.mark.crash) = false → .broken ∉ c'.queue := by
  rw [List.any_append, List.any_cons, List.any_nil]
  generalize h.mark = m at he
  cases he <;> simp_all [hungUp]

theorem head_kept {first : Http.Head} (he : Effect c m c') (hc : c.head = some first) :
    c'.head = some first := by
  cases he with
  | commit => rw [hc]; rfl
  | accept => rw [hc]; rfl
  | _ => exact hc

theorem closed_kept (he : Effect c m c') (hc : c.closed = true) : c'.closed = true := by
  cases he with
  | shut | switch | gone => rfl
  | _ => exact hc

end Channel.Effect

theorem Sound.step {hs : List Happening} {s : Streamed} (h : Sound hs s.channel) (e : Step) :
    Sound (hs ++ [(on e s).1]) (on e s).2.channel := by
  have he := effect_on e s
  have hheads := he.heads h.heads h.awaiting
  exact ⟨hheads.1, hheads.2, he.reader h.reader, he.closed h.closed, he.early h.early,
    he.books h.books, he.bound h.bound, he.whole h.whole⟩

theorem Sound.run {hs : List Happening} {s : Streamed} (h : Sound hs s.channel) (es : List Step) :
    Sound (hs ++ (run es s).1) (run es s).2.channel := by
  induction es generalizing hs s with
  | nil => rwa [Streamed.run, List.append_nil]
  | cons e es ih => simpa [Streamed.run] using ih (h.step e)

theorem sound_run (q : Http.Request) (es : List Step) :
    Sound (run es (forRequest q)).1 (run es (forRequest q)).2.channel := by
  have hstart : Sound [] (forRequest q).channel := {
    heads := List.prefix_rfl
    awaiting := fun _ => rfl
    reader := by simp [forRequest, channel]
    closed := rfl
    early := fun _ => ⟨rfl, rfl⟩
    books := fun _ => rfl
    bound := Nat.zero_le _
    whole := fun _ => List.not_mem_nil }
  exact hstart.run es

theorem head_run {s : Streamed} {h : Http.Head} (hs : s.head = some h) (es : List Step) :
    (run es s).2.head = some h := by
  induction es generalizing s with
  | nil => exact hs
  | cons e es ih => exact ih ((effect_on e s).head_kept hs)

theorem Happening.eq_of_crash {h : Happening} (hm : h.mark.crash = true) : h = .released true := by
  cases h with
  | released crashed => exact congrArg released hm
  | operated op a =>
    unfold mark at hm
    split at hm <;> simp_all
  | head a => cases a <;> cases hm
  | body a => cases a <;> cases hm
  | dropped => cases hm

theorem crash_run {es : List Step} (h : .release true ∉ es) (s : Streamed) :
    (run es s).1.any (·.mark.crash) = false := by
  induction es generalizing s with
  | nil => rfl
  | cons e es ih =>
    rw [List.mem_cons, not_or] at h
    rw [run, List.any_cons, ih h.2, Bool.or_false, Bool.eq_false_iff]
    intro hm
    have hon := Happening.eq_of_crash hm
    cases e with
    | release crashed =>
      cases hon
      exact h.1 rfl
    | _ => cases hon

theorem queue_of_refused {bs : Bytes} {s : Streamed}
    (h : ∀ n, (Transport.write bs s).1 ≠ .done (.ok (n + 1))) :
    (Transport.write bs s).2.queue = s.queue := by
  cases bs with
  | nil => exact queue_commit .ok s
  | cons b bs =>
    rw [write_cons] at h ⊢
    split
    · exact queue_commit .ok s
    · split
      · exact queue_commit .ok s
      · next hclosed hfull =>
        rw [if_neg hclosed, if_neg hfull] at h
        exact absurd rfl (h bs.length)

theorem Sound.write {hs : List Happening} {s : Streamed} (h : Sound hs s.channel) (b : UInt8)
    (bs : Bytes) :
    (Transport.write (b :: bs) s).1 =
      if hs.any Happening.ends then .done (.error bodyClosed)
      else if s.queue.length = capacity + 1 then .waiting false
      else .done (.ok (bs.length + 1)) := by
  have hclosed : s.closed = hs.any Happening.ends := h.closed
  have hbound : s.queue.length ≤ capacity + 1 := h.bound
  have hfull : s.isFull = true ↔ s.queue.length = capacity + 1 := by
    rw [isFull, decide_eq_true_iff]
    omega
  rw [write_cons, hclosed]
  simp only [hfull]
  split
  · rfl
  · split <;> rfl

theorem takeBody_of_whole {s : Streamed} {p : Part} {ps : List Part} (hwhole : .broken ∉ s.queue)
    (hreader : s.reader = .reading) (hqueue : s.queue = p :: ps) :
    ∃ bs, p = .chunk bs ∧ s.takeBody = (.chunk bs, { s with queue := ps }) := by
  rw [takeBody, hreader, hqueue]
  cases p with
  | chunk bs => exact ⟨bs, rfl, rfl⟩
  | broken => simp [hqueue] at hwhole

/-- The law of a body whose writer does not crash. -/
structure Delivered (hs : List Happening) (s : Streamed) : Prop where
  heads : heads hs <+: s.head.toList
  head_kept : ∀ h es, s.head = some h → (run es s).2.head = some h
  head_first : s.head = none → accepted hs = [] ∧ s.queue = []
  in_order : hs.any (·.mark.letsGo) = false →
    (received hs).map .chunk ++ s.queue = (accepted hs).map .chunk
  refused : ∀ bs, (∀ n, (Transport.write bs s).1 ≠ .done (.ok (n + 1))) →
    (Transport.write bs s).2.queue = s.queue
  bounded : s.queue.length ≤ capacity + 1
  front : ∀ p ps, s.reader = .reading → s.queue = p :: ps →
    ∃ bs, p = .chunk bs ∧ s.takeBody = (.chunk bs, { s with queue := ps })
  write : ∀ b bs, (Transport.write (b :: bs) s).1 =
    if hs.any Happening.ends then .done (.error ⟨.brokenPipe, .custom "response body closed"⟩)
    else if s.queue.length = capacity + 1 then .waiting false
    else .done (.ok (bs.length + 1))

theorem delivered_run (q : Http.Request) {es : List Step} (h : .release true ∉ es) :
    Delivered (run es (forRequest q)).1 (run es (forRequest q)).2 := by
  have hsound := sound_run q es
  -- without a crash there are only chunks in the queue
  have hchunks := Part.map_chunk (hsound.whole (crash_run h _))
  exact {
    heads := hsound.heads
    head_kept := fun h es hs => head_run hs es
    head_first := fun hs => (hsound.early hs).symm
    in_order := by
      intro hs
      rw [← hsound.books hs, List.map_append, Channel.unread, hchunks]
      rfl
    refused := fun _ => queue_of_refused
    bounded := hsound.bound
    front := fun _ _ => takeBody_of_whole (hsound.whole (crash_run h _))
    write := hsound.write }

theorem delivered_run_of_full :
    let full := List.replicate 9 (.operate (.write [0x61])) ++ [.takeHead]
    let closed := full ++ [.takeBody, .operate .close]
    (.release true ∉ full ∧ (run full (forRequest {})).2.queue.length = capacity + 1 ∧
      (Transport.write [0x62] (run full (forRequest {})).2).1 = .waiting false) ∧
    .release true ∉ closed ∧
      (Transport.write [0x62] (run closed (forRequest {})).2).1 =
        .done (.error ⟨.brokenPipe, .custom "response body closed"⟩) ∧
      (run closed (forRequest {})).2.takeBody.1 = .chunk [0x61] := by
  intro full closed
  have hfull : .release true ∉ full := by simp [full]
  have hclosed : .release true ∉ closed := by simp [closed, full]
  obtain ⟨bs, hbs, hread⟩ := (delivered_run {} hclosed).front _ _ rfl rfl
  cases hbs
  exact ⟨⟨hfull, rfl, (delivered_run {} hfull).write 0x62 []⟩, hclosed,
    (delivered_run {} hclosed).write 0x62 [], congrArg Prod.fst hread⟩

end Streamed

end AccessTrail
