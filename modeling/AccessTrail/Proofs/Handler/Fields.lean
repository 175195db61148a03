import AccessTrail.Proofs.Handler.Statuses
import AccessTrail.Proofs.Transport.Crashed

namespace AccessTrail

variable {σ ℓ μ : Type}

namespace Operation

def late : List Operation → List Operation
  | [] => []
  | .sendHead _ :: ops | .write _ :: ops => ops
  | _ :: ops => late ops

def settled (h : Http.Headers) (ops : List Operation) : Http.Head :=
  (head? h ops).getD ⟨.ok, edited h ops⟩

theorem settled_of_head {h : Http.Headers} {ops : List Operation} {head : Http.Head}
    (hhead : head? h ops = some head) : settled h ops = head := by
  rw [settled, hhead, Option.getD_some]

theorem edited_settled (h : Http.Headers) (ops : List Operation) :
    edited h ops = edited (settled h ops).headers (late ops) := by
  induction ops generalizing h with
  | nil => rfl
  | cons op ops ih =>
    cases op with
    | edit change => exact ih (change h)
    | sendHead | write => rfl
    | headers | flush | close | handOver => exact ih h

theorem edited_of_no_edit (h : Http.Headers) {ops : List Operation}
    (hops : ∀ change, .edit change ∉ ops) :
    edited h ops = h := by
  fun_induction edited h ops with
  | case1 => rfl
  | case2 h change ops => exact absurd List.mem_cons_self (hops change)
  | case3 h op ops _ ih => exact ih fun change hmem => hops change (List.mem_cons_of_mem op hmem)

theorem run_follows [Transport σ] {R : List Operation → σ → Prop}
    (hop : ∀ past op s, R past s → R (past ++ [op]) (op.on s).2) (ops past : List Operation) {s : σ}
    (hs : R past s) : R (past ++ ops) (run ops s).2 := by
  induction ops generalizing past s with
  | nil => rwa [List.append_nil]
  | cons op ops ih =>
    rw [List.append_cons past op ops]
    exact ih _ (hop past op s hs)

end Operation

namespace Exchange

variable [Transport σ] [Log ℓ] (act : μ → σ → σ)

def operations (x : Exchange σ ℓ) : List (Move μ ℓ) → List Operation
  | [] => []
  | .poll w :: ms => w.operations x ++ operations (x.move act (.poll w)) ms
  | m :: ms => operations (x.move act m) ms

variable {act}

theorem operations_follow {R : List Operation → σ → Prop}
    (hop : ∀ past op s, R past s → R (past ++ [op]) (op.on s).2)
    (hother : ∀ past m s, R past s → R past (act m s)) (past : List Operation) {x : Exchange σ ℓ}
    (hx : R past x.observer.inner) (ms : List (Move μ ℓ)) :
    R (past ++ x.operations act ms) (x.moves act ms).observer.inner := by
  induction ms generalizing past x with
  | nil => rwa [operations, List.append_nil]
  | cons m ms ih =>
    cases m with
    | poll w =>
      rw [operations, ← List.append_assoc]
      refine ih _ ?_
      rw [move, Work.poll_operations]
      exact Operation.run_follows hop _ _ hx
    | other m => exact ih past (hother past m _ hx)
    | elsewhere => exact ih past hx

end Exchange

namespace Streamed

structure Follows (ops : List Operation) (s : Streamed) : Prop where
  head : s.head = Operation.head? {} ops
  headers : s.head = none → s.headers = Operation.edited {} ops

theorem Follows.on {past : List Operation} {s : Streamed} (h : Follows past s) (op : Operation) :
    Follows (past ++ [op]) (op.on s).2 := by
  constructor
  · rw [head_on, Operation.head?_append, ← h.head]
    cases hs : s.head with
    | none => rw [h.headers hs]
    | some => rfl
  · intro hnone
    have hs : s.head = none := by
      rw [head_on] at hnone
      exact (Option.or_eq_none_iff.1 hnone).1
    rw [(unsettled_on hnone).1, h.headers hs, Operation.edited_append]

theorem Follows.act {past : List Operation} {s : Streamed} (h : Follows past s) (d : Demand) :
    Follows past (d.act s) := by
  constructor
  · rw [d.head_act, h.head]
  · rw [d.head_act, d.headers_act]
    exact h.headers

theorem Follows.settled {ops : List Operation} {s : Streamed} (h : Follows ops s) :
    (Transport.release false s).head = some (Operation.settled {} ops) := by
  rw [head_release, Operation.settled, ← h.head]
  cases hs : s.head with
  | none => rw [h.headers hs]
  | some => rfl

end Streamed

namespace Buffered

structure Follows (ops : List Operation) (b : Buffered) : Prop where
  status : b.status = (Operation.head? {} ops).map (·.status)
  headers : b.headers = Operation.edited {} ops

theorem Follows.on {past : List Operation} {b : Buffered} (h : Follows past b) (op : Operation) :
    Follows (past ++ [op]) (op.on b).2 := by
  have hevent : ∀ fields, (Operation.head? fields [op]).map (·.status) =
      op.event?.map (·.status) := by
    intro fields
    cases op <;> rfl
  constructor
  · rw [settles.operate, h.status, Operation.head?_append, ← hevent (Operation.edited {} past)]
    cases Operation.head? {} past <;> rfl
  · rw [Operation.edited_append, ← h.headers]
    cases op <;> rfl

end Buffered

namespace Exchange

variable [Log ℓ]

/-- The client of a streamed response gets the fields that went with the head, whatever is edited
later and whenever it asks. The fields of a response that is kept whole are those too, with the late
edits made to them. -/
theorem fields_of_response (q : Http.Request) (log : ℓ) (now : Clock) :
    (∀ ms more : List (Move Streamed.Demand ℓ),
      let start : Exchange Streamed ℓ := enter q (Streamed.forRequest q) log now
      let t := (start.moves Streamed.Demand.act ms).observer.inner
      let later := (start.moves Streamed.Demand.act (ms ++ more)).observer.inner
      let head := Operation.settled {} (start.operations Streamed.Demand.act ms)
      (∀ h, t.takeHead.1 = .head h → h = head) ∧
        (Transport.release false t).takeHead.1 =
          (if t.reader = .awaiting then .head head else .unexpected) ∧
        (t.head ≠ none → later.head = some head)) ∧
    ∀ ms : List (Move Empty ℓ),
      let start : Exchange Buffered ℓ := enter q {} log now
      let response := (start.moves Empty.elim ms).observer.inner.response
      let ops := start.operations Empty.elim ms
      let head := Operation.settled {} ops
      response.status = head.status ∧
        response.headers = Operation.edited head.headers (Operation.late ops) ∧
        ((∀ change, .edit change ∉ Operation.late ops) → response.headers = head.headers) := by
  constructor
  · intro ms more start t later head
    have hfollows : ∀ past (x : Exchange Streamed ℓ) ms, Streamed.Follows past x.observer.inner →
        Streamed.Follows (past ++ x.operations Streamed.Demand.act ms)
          (x.moves Streamed.Demand.act ms).observer.inner :=
      fun past x ms hx =>
        operations_follow (fun _ op _ hs => hs.on op) (fun _ d _ hs => hs.act d) past hx ms
    have ht : Streamed.Follows (start.operations Streamed.Demand.act ms) t :=
      hfollows [] start ms ⟨rfl, fun _ => rfl⟩
    have hhead : ∀ h, t.head = some h → h = head := fun h hsome =>
      (Operation.settled_of_head (ht.head.symm.trans hsome)).symm
    refine ⟨fun h htaken => hhead h (Streamed.head_of_takeHead htaken), ?_, ?_⟩
    · rw [Streamed.takeHead_of_head ht.settled, Streamed.reader_release]
    · intro hsome
      obtain ⟨h, hh⟩ := Option.ne_none_iff_exists'.1 hsome
      have hlater := (hfollows _ _ more ht).head
      change (start.moves Streamed.Demand.act (ms ++ more)).observer.inner.head = _
      rw [moves_append, hlater, Operation.head?_append, ← ht.head, hh, Option.some_or, hhead h hh]
  · intro ms start response ops head
    have hb : Buffered.Follows ops (start.moves Empty.elim ms).observer.inner :=
      operations_follow (fun _ op _ hs => hs.on op) (fun _ e => e.elim) [] ⟨rfl, rfl⟩ ms
    have hheaders : response.headers = Operation.edited head.headers (Operation.late ops) :=
      hb.headers.trans (Operation.edited_settled {} ops)
    refine ⟨?_, hheaders, ?_⟩
    · change (Buffered.status _).getD .ok = (Operation.settled {} ops).status
      rw [hb.status, Operation.settled]
      cases Operation.head? {} ops <;> rfl
    · intro hlate
      rw [hheaders, Operation.edited_of_no_edit _ hlate]

theorem fields_of_response_of_early :
    let early : List Work := [.command (.edit (·.set "x-early" [0x31])), .command (.sendHead .ok)]
    let start : Exchange Streamed MemoryLog := enter {} (Streamed.forRequest {}) {} ⟨"T", {}⟩
    let ms : List (Move Streamed.Demand MemoryLog) := early.map .poll
    let more : List (Move Streamed.Demand MemoryLog) :=
      [.poll (.command (.edit (·.set "x-late" [0x31])))]
    let start' : Exchange Buffered MemoryLog := enter {} {} {} ⟨"T", {}⟩
    let ms' : List (Move Empty MemoryLog) := early.map .poll
    ((start.moves Streamed.Demand.act ms).observer.inner.head ≠ none ∧
        (start.moves Streamed.Demand.act (ms ++ more)).observer.inner.head =
          some ⟨.ok, ⟨[("x-early", [0x31])]⟩⟩) ∧
      (∀ change, .edit change ∉ Operation.late (start'.operations Empty.elim ms')) ∧
      (start'.moves Empty.elim ms').observer.inner.response.headers = ⟨[("x-early", [0x31])]⟩ := by
  intro early start ms more start' ms'
  obtain ⟨hstreamed, hbuffered⟩ := fields_of_response {} ({} : MemoryLog) ⟨"T", {}⟩
  have hhead : (start.moves Streamed.Demand.act ms).observer.inner.head ≠ none := nofun
  have hlate : ∀ change, .edit change ∉ Operation.late (start'.operations Empty.elim ms') := nofun
  exact ⟨⟨hhead, (hstreamed ms more).2.2 hhead⟩, hlate, (hbuffered ms').2.2 hlate⟩

/-- An edit that comes after the head still reaches the client of a response that is kept whole. -/
theorem not_frozen_after_head :
    ¬∀ ms : List (Move Empty MemoryLog),
      let start : Exchange Buffered MemoryLog := enter {} {} {} ⟨"T", {}⟩
      (start.moves Empty.elim ms).observer.inner.response.headers =
        (Operation.settled {} (start.operations Empty.elim ms)).headers := by
  intro h
  let late : List Work := [.command (.sendHead .ok), .command (.edit (·.set "x-late" [0x31]))]
  have hfrozen := h (late.map .poll)
  exact absurd hfrozen (by decide)

end Exchange

end AccessTrail
