import AccessTrail.Log.Memory
import AccessTrail.Serving
import AccessTrail.Proofs.Handler.Outcome
import AccessTrail.Proofs.Transport.Head

/-!
What a failure does to the response. It is told to the client as long as nothing of the handler was
sent, whatever head or error reply was sent before: the text then follows what is there, under the
first head.
-/

namespace AccessTrail

variable {σ ℓ μ : Type}

def Streamed.Step.act (e : Step) (s : Streamed) : Streamed := (on e s).2

namespace Exchange

def replyText (f : Failure) : Bytes := Utf8.encode (Text.quote f.root)

structure PlainText (h : Http.Headers) : Prop where
  type : h.values "content-type" = [Utf8.ofString "text/plain; charset=utf-8"]
  sniffing : h.values "x-content-type-options" = [Utf8.ofString "nosniff"]
  length : h.values "content-length" = []

theorem plainText_plain (h : Http.Headers) : PlainText (plainText h) where
  type := by simp [plainText]
  sniffing := by simp [plainText]
  length := by simp [plainText]

end Exchange

variable [Log ℓ] {status : Http.Status} {f : Failure} {x y : Exchange σ ℓ}

/-- The failure is told to the client: nothing of the handler was sent, and the log does not crash
over it. -/
def Exchange.Replies (status : Http.Status) (f : Failure) (x : Exchange σ ℓ) : Prop :=
  x.observer.tally.sent = 0 ∧ (x.record (failing status f)).1 = none

theorem Exchange.replies_remember : x.remember.Replies status f ↔ x.Replies status f := by
  have hrecord : x.remember.record (failing status f) = _ := x.record_map (failing status f)
  rw [Replies, hrecord]
  rfl

theorem Exchange.record_memory (e : Entry) (x : Exchange σ MemoryLog) : (x.record e).1 = none := by
  rw [record]
  split <;> rfl

variable [Transport σ]

namespace Work

theorem fail_of_replies (h : x.Replies status f) :
    ∃ y : Exchange σ ℓ, y.observer.inner = x.observer.inner ∧
      fail status f x = pollReply (Exchange.replyBody f) (y.replyHead status) := by
  obtain ⟨hsent, hrecord⟩ := h
  have hinner := Exchange.inner_record (Exchange.failing status f) x
  have htally := Exchange.tally_record (Exchange.failing status f) x
  cases hr : x.record (Exchange.failing status f) with
  | mk crash y =>
    rw [hr] at hinner htally hrecord
    cases hrecord
    rw [fail, hr]
    refine ⟨y.setStatus status, hinner, if_pos ?_⟩
    exact (congrArg Tally.sent htally).trans hsent

theorem fail_of_not_replies (h : ¬x.Replies status f) :
    (fail status f x).2.observer.inner = x.observer.inner ∧
      ∀ again w, (fail status f x).1 ≠ .waiting again w := by
  have hinner := Exchange.inner_record (Exchange.failing status f) x
  have htally := Exchange.tally_record (Exchange.failing status f) x
  rw [Exchange.Replies] at h
  cases hr : x.record (Exchange.failing status f) with
  | mk crash y =>
    rw [hr] at hinner htally h
    rw [fail, hr]
    cases crash with
    | some message => exact ⟨hinner, fun _ _ => by simp⟩
    | none =>
      have hsent : (y.setStatus status).observer.tally.sent ≠ 0 := fun hy =>
        h ⟨(congrArg Tally.sent htally).symm.trans hy, rfl⟩
      simp only
      rw [if_neg hsent]
      exact ⟨hinner, fun _ _ => by simp⟩

theorem operations_fail (h : x.Replies status f) :
    [.edit Exchange.plainText, .sendHead status, .write (Exchange.replyText f)] <+:
      (command (.fail status f)).operations x := by
  obtain ⟨y, hinner, hy⟩ := fail_of_replies (Exchange.replies_remember.2 h)
  have hpast : y.observer.inner.past = [] := congrArg History.past hinner
  rw [operations, poll, pollCommand, hy]
  let P (s : History x.observer.inner) : Prop :=
    [.edit Exchange.plainText, .sendHead status, .write (Exchange.replyText f)] <+: s.past
  have hstart :
      P (Transport.write (Exchange.replyText f) (y.replyHead status).observer.inner).2 := by
    change _ <+: y.observer.inner.past ++ [.edit Exchange.plainText] ++ [.sendHead status] ++
      [.write (Exchange.replyText f)]
    rw [hpast]
    exact List.prefix_rfl
  exact pollReply_cons_keeps (P := P) (fun bs s hs => hs.trans (List.prefix_append _ _))
    (fun s hs => hs.trans (List.prefix_append _ _)) hstart

theorem operations_fail_eq_nil (h : ¬x.Replies status f) :
    (command (.fail status f)).operations x = [] :=
  congrArg History.past (fail_of_not_replies (Exchange.replies_remember.not.2 h)).1

theorem operations_fail_ne_nil (hrecord : (x.record (Exchange.failing status f)).1 = none) :
    (command (.fail status f)).operations x ≠ [] ↔ x.observer.tally.sent = 0 := by
  constructor
  · intro htold
    by_contra hsent
    exact htold (operations_fail_eq_nil fun h => hsent h.1)
  · intro hsent hnil
    have htold := operations_fail ⟨hsent, hrecord⟩
    rw [hnil] at htold
    exact absurd (List.prefix_nil.1 htold) (by simp)

end Work

namespace Exchange

/-- Whether a failure is told depends on what the transport accepted from the handler, and not on
what else it was sent: neither a head nor an earlier error reply is counted. The count has 64 bits.
-/
theorem replies_by_count (hwire : ∀ s : σ, Transport.onWire s = none) (act : μ → σ → σ)
    (q : Http.Request) (s : σ) (log : ℓ) (now : Clock) (ms : List (Move μ ℓ)) (status : Http.Status)
    (f : Failure) :
    let start : Exchange σ ℓ := .enter q s log now
    let count := UInt64.ofNat (start.accepted act (!·.isReply) ms)
    let x := start.moves act ms
    let failing := Work.command (.fail status f)
    (count ≠ 0 → failing.operations x = [] ∧ ∀ again w, (failing.poll x).1 ≠ .waiting again w) ∧
      (count = 0 → (x.record (Exchange.failing status f)).1 = none →
        [.edit plainText, .sendHead status, .write (replyText f)] <+: failing.operations x) := by
  intro start count x failing
  have hsent : x.observer.tally.sent = count :=
    (sent_moves act hwire start ms).trans (UInt64.zero_add _)
  constructor
  · intro hcount
    have hsilent : ¬x.Replies status f := fun h => hcount (hsent.symm.trans h.1)
    exact ⟨Work.operations_fail_eq_nil hsilent, (Work.fail_of_not_replies hsilent).2⟩
  · intro hcount hrecord
    exact Work.operations_fail ⟨hsent.trans hcount, hrecord⟩

theorem replies_by_count_after_byte :
    let start : Exchange Buffered MemoryLog := .enter {} {} {} ⟨"T", {}⟩
    let ms : List (Move Empty MemoryLog) := [.poll (.command (.write [0x61]))]
    (∀ b : Buffered, Transport.onWire b = none) ∧
      UInt64.ofNat (start.accepted nofun (!·.isReply) ms) ≠ 0 ∧
      (Work.command (.fail .internalServerError ⟨"boom", []⟩)).operations
        (start.moves nofun ms) = [] := by
  intro start ms
  have hwire : ∀ b : Buffered, Transport.onWire b = none := fun _ => rfl
  have haccepted : start.accepted nofun (!·.isReply) ms = 1 := rfl
  have hcount : UInt64.ofNat (start.accepted nofun (!·.isReply) ms) ≠ 0 := by
    rw [haccepted]
    decide
  have hsilent := (replies_by_count hwire nofun {} {} ({} : MemoryLog) ⟨"T", {}⟩ ms
    .internalServerError ⟨"boom", []⟩).1 hcount
  exact ⟨hwire, hcount, hsilent.1⟩

/-- An error reply does not keep a later failure from being told once more. -/
theorem not_silent_after_reply :
    ¬∀ (ms : List (Move Empty MemoryLog)) (status : Http.Status) (f : Failure),
      let start : Exchange Buffered MemoryLog := .enter {} {} {} ⟨"T", {}⟩
      0 < start.accepted nofun (fun _ => true) ms →
      (Work.command (.fail status f)).operations (start.moves nofun ms) = [] := by
  intro h
  let failing : Work := .command (.fail .internalServerError ⟨"boom", []⟩)
  let start : Exchange Buffered MemoryLog := .enter {} {} {} ⟨"T", {}⟩
  have hfirst : start.Replies .internalServerError ⟨"boom", []⟩ := ⟨rfl, record_memory _ start⟩
  obtain ⟨rest, hrest⟩ := Work.operations_fail hfirst
  have haccepted : 0 < failing.accepted start := by
    change 0 < (((Operation.run (failing.operations start) start.observer.inner).1.map _).sum)
    rw [← hrest, Operation.run_append, List.map_append, List.sum_append]
    exact Nat.add_pos_left (by decide) _
  have hsent : (failing.poll start).2.observer.tally.sent = 0 := (Work.counts_reply rfl start).2
  have hsecond : (failing.poll start).2.Replies .internalServerError ⟨"boom", []⟩ :=
    ⟨hsent, record_memory _ _⟩
  have hagain := Work.operations_fail hsecond
  have hsilent := h [.poll failing] .internalServerError ⟨"boom", []⟩ haccepted
  exact absurd (List.prefix_nil.1 (hsilent ▸ hagain)) (by simp)

theorem moves_of_replies {P : σ → Prop} (h : x.Replies status f)
    (hhead : P (Transport.sendHead status (Transport.editHeaders plainText x.observer.inner)).1)
    (hwrite : ∀ bs s, P s → P (Transport.write bs s).2)
    (hflush : ∀ s, P s → P (Transport.flush s).2) {act : μ → σ → σ} {after : List (Move μ ℓ)}
    (hafter : ∀ m ∈ after, m.Keeps act P) :
    P (((Work.command (.fail status f)).poll x).2.moves act after).observer.inner := by
  refine moves_keeps act hafter ?_
  obtain ⟨y, hinner, hy⟩ := Work.fail_of_replies h
  change P (Work.fail status f x).2.observer.inner
  rw [hy]
  rw [← hinner] at hhead
  exact Work.pollReply_keeps hwrite hflush _ hhead

theorem replies_of_write {part : Bytes}
    (h : .write part ∈ (Work.command (.fail status f)).operations x) :
    x.Replies status f := by
  by_contra hsilent
  rw [Work.operations_fail_eq_nil hsilent] at h
  cases h

theorem head_of_replies {x : Exchange Streamed ℓ} (h : x.Replies status f)
    (after : List (Move Streamed.Step ℓ)) :
    (((Work.command (.fail status f)).poll x).2.moves Streamed.Step.act after).observer.inner.head =
      some (x.observer.inner.head.getD ⟨status, plainText x.observer.inner.headers⟩) := by
  let H := x.observer.inner.head.getD ⟨status, plainText x.observer.inner.headers⟩
  have hkept : ∀ (e : Streamed.Step) (s : Streamed), s.head = some H →
      (Streamed.on e s).2.head = some H :=
    fun e s hs => (Streamed.effect_on e s).head_kept hs
  refine moves_of_replies (P := fun s : Streamed => s.head = some H) h ?_ ?_ ?_ ?_
  · exact Streamed.head_commit status _
  · exact fun bs s => hkept (.operate (.write bs)) s
  · exact fun _ => id
  · intro m _
    cases m with
    | poll w => exact fun op s _ => hkept (.operate op) s
    | other e => exact hkept e
    | elsewhere => trivial

theorem response_of_replies {x : Exchange Buffered ℓ} (h : x.Replies status f)
    (after : List (Move Empty ℓ)) :
    let b := (((Work.command (.fail status f)).poll x).2.moves nofun after).observer.inner
    b.response.status = x.observer.inner.status.getD status ∧
      ((∀ change, .poll (.command (.edit change)) ∉ after) → PlainText b.response.headers) := by
  intro b
  let kept := x.observer.inner.status.getD status
  have hstatus : b.status = some kept := by
    refine moves_of_replies (P := fun s : Buffered => s.status = some kept) h rfl ?_ ?_ ?_
    · exact fun bs s hs => Buffered.status_kept hs (.write bs)
    · exact fun _ => id
    · intro m _
      cases m with
      | poll w => exact fun op s _ hs => Buffered.status_kept hs op
      | other e => exact e.elim
      | elsewhere => trivial
  refine ⟨congrArg (Option.getD · Http.Status.ok) hstatus, fun hafter => ?_⟩
  refine moves_of_replies (P := fun s : Buffered => PlainText s.headers) h ?_ ?_ ?_ ?_
  · exact plainText_plain x.observer.inner.headers
  · exact fun _ _ => id
  · exact fun _ => id
  · intro m hm
    cases m with
    | other e => exact e.elim
    | elsewhere => trivial
    | poll w =>
      intro op s hasks hs
      cases hasks with
      | edit change => exact absurd hm (hafter change)
      | failEdit => exact plainText_plain s.headers
      | _ => exact hs

/-- A failure that is told goes out under the first head: with its own status and fields if no head
was sent before, and else under the status of another. Where the response is kept whole, later edits
still change its fields. -/
theorem reply_under_first_head (status : Http.Status) (f : Failure) (log : ℓ) (now : Clock)
    (q : Http.Request) :
    (∀ before after : List (Move Streamed.Step ℓ),
      let x := (enter q (Streamed.forRequest q) log now).moves Streamed.Step.act before
      let failing := Work.command (.fail status f)
      let t := ((failing.poll x).2.moves Streamed.Step.act after).observer.inner
      (∃ part, .write part ∈ failing.operations x) →
      ∃ head : Http.Head,
        t.takeHead.1 = (if t.reader = .awaiting then .head head else .unexpected) ∧
        (x.observer.inner.head = none → head.status = status ∧ PlainText head.headers) ∧
        ∀ first, x.observer.inner.head = some first → head = first) ∧
    ∀ before after : List (Move Empty ℓ),
      let x := (enter q ({} : Buffered) log now).moves nofun before
      let failing := Work.command (.fail status f)
      let b := ((failing.poll x).2.moves nofun after).observer.inner
      (∃ part, .write part ∈ failing.operations x) →
      b.response.status = x.observer.inner.status.getD status ∧
        ((∀ change, .poll (.command (.edit change)) ∉ after) → PlainText b.response.headers) := by
  constructor
  · intro before after x failing t hwrite
    obtain ⟨part, hpart⟩ := hwrite
    have hhead : t.head = _ := head_of_replies (replies_of_write hpart) after
    refine ⟨_, Streamed.takeHead_of_head hhead, ?_, ?_⟩
    · intro hnone
      rw [hnone]
      exact ⟨rfl, plainText_plain _⟩
    · intro first hfirst
      rw [hfirst]
      rfl
  · intro before after x failing b hwrite
    obtain ⟨part, hpart⟩ := hwrite
    exact response_of_replies (replies_of_write hpart) after

theorem write_of_replies (h : x.Replies status f) :
    .write (replyText f) ∈ (Work.command (.fail status f)).operations x :=
  (Work.operations_fail h).subset (by simp)

theorem reply_under_first_head_of_fresh :
    let failing := Work.command (.fail .internalServerError ⟨"boom", []⟩)
    let x : Exchange Streamed MemoryLog := enter {} (Streamed.forRequest {}) {} ⟨"T", {}⟩
    let t := (failing.poll x).2.observer.inner
    let y : Exchange Buffered MemoryLog := enter {} {} {} ⟨"T", {}⟩
    let r := (failing.poll y).2.observer.inner.response
    ((∃ part, .write part ∈ failing.operations x) ∧ x.observer.inner.head = none ∧
      ∃ head : Http.Head, t.takeHead.1 =
        (if t.reader = .awaiting then .head head else .unexpected) ∧
        head.status = .internalServerError ∧ PlainText head.headers) ∧
    (∃ part, .write part ∈ failing.operations y) ∧ r.status = .internalServerError ∧
      PlainText r.headers := by
  intro failing x t y r
  have hx : x.Replies .internalServerError ⟨"boom", []⟩ := ⟨rfl, record_memory _ x⟩
  have hy : y.Replies .internalServerError ⟨"boom", []⟩ := ⟨rfl, record_memory _ y⟩
  obtain ⟨hstreamed, hbuffered⟩ :=
    reply_under_first_head .internalServerError ⟨"boom", []⟩ ({} : MemoryLog) ⟨"T", {}⟩ {}
  obtain ⟨head, htaken, hhead, -⟩ := hstreamed [] [] ⟨_, write_of_replies hx⟩
  obtain ⟨hstatus, hheaders⟩ := hbuffered [] [] ⟨_, write_of_replies hy⟩
  exact ⟨⟨⟨_, write_of_replies hx⟩, rfl, head, htaken, hhead rfl⟩, ⟨_, write_of_replies hy⟩,
    hstatus, hheaders (by simp)⟩

/-- A head that was sent before keeps its status, and the text of the failure follows it. -/
theorem not_status_of_failure :
    ¬∀ (before after : List (Move Empty MemoryLog)) (status : Http.Status) (f : Failure),
      let x := (enter {} ({} : Buffered) ({} : MemoryLog) ⟨"T", {}⟩).moves nofun before
      let failing := Work.command (.fail status f)
      (∃ part, .write part ∈ failing.operations x) →
      ((failing.poll x).2.moves nofun after).observer.inner.response.status = status := by
  intro h
  let head : Move Empty MemoryLog := .poll (.command (.sendHead .ok))
  let x := (enter {} ({} : Buffered) ({} : MemoryLog) ⟨"T", {}⟩).move nofun head
  have hreplies : x.Replies .internalServerError ⟨"boom", []⟩ := ⟨rfl, record_memory _ x⟩
  have hstatus := h [head] [] .internalServerError ⟨"boom", []⟩ ⟨_, write_of_replies hreplies⟩
  have hfirst := (response_of_replies hreplies []).1
  exact absurd (hfirst.symm.trans hstatus) (by decide)

end Exchange

end AccessTrail
