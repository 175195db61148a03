import AccessTrail.Proofs.Handler.Demo
import AccessTrail.Proofs.Transport.Turns

namespace AccessTrail

open Streamed (Demand)
open Transport (Grants)

namespace Buffered

theorem grants {ops : List Operation} (hplain : ∀ op ∈ ops, op.isPlain) (b : Buffered) :
    Grants ops b := by
  induction ops generalizing b with
  | nil => trivial
  | cons op ops ih =>
    rw [List.forall_mem_cons] at hplain
    refine ⟨?_, ih hplain.2 _⟩
    cases op with
    | edit | sendHead => trivial
    | write | flush => rfl
    | headers | close | handOver => cases hplain.1

theorem body_run (ops : List Operation) (b : Buffered) :
    (Operation.run ops b).2.body = b.body ++ Operation.written ops := by
  induction ops generalizing b with
  | nil => exact (List.append_nil b.body).symm
  | cons op ops ih =>
    have hrun : (Operation.run (op :: ops) b).2.body = _ := ih (op.on b).2
    have hsplit : Operation.written (op :: ops) = Operation.written [op] ++ Operation.written ops :=
      Operation.written_append [op] ops
    rw [hrun, hsplit, ← List.append_assoc]
    cases op with
    | write bs => exact congrArg (b.body ++ · ++ _) (List.append_nil bs).symm
    | headers | edit | sendHead | flush | close | handOver =>
      exact congrArg (· ++ _) (List.append_nil b.body).symm

end Buffered

namespace Demo

namespace Outcome

theorem plain_operations {o : Outcome} (h : ∀ protocol, o ≠ .switched protocol) :
    ∀ op ∈ o.operations, op.isPlain := by
  cases o with
  | greeted => simp [operations, Operation.isPlain]
  | switched protocol => exact absurd rfl (h protocol)
  | told p => simp [operations, Exchange.replying, Exchange.replyBody, Operation.isPlain]

theorem status_ne {o : Outcome} (h : ∀ protocol, o ≠ .switched protocol) :
    o.status ≠ .switchingProtocols := by
  cases o with
  | greeted => exact (by decide : Http.Status.ok ≠ .switchingProtocols)
  | switched protocol => exact absurd rfl (h protocol)
  | told p => exact p.status_ne.2

theorem written_of_status {o : Outcome} (h : o.status = .switchingProtocols) :
    Operation.written o.operations = [] := by
  by_cases hswitched : ∃ protocol, o = .switched protocol
  · obtain ⟨protocol, rfl⟩ := hswitched
    rfl
  · exact absurd h (status_ne (not_exists.1 hswitched))

theorem length_operations (o : Outcome) : o.operations.length ≤ 5 := by
  cases o <;> simp [operations, Exchange.replying, Exchange.replyBody]

theorem head?_operations (o : Outcome) (h : Http.Headers) :
    ∃ headers, Operation.head? h o.operations = some ⟨o.status, headers⟩ := by
  cases o <;> exact ⟨_, rfl⟩

end Outcome

section

variable {σ ℓ : Type} [Transport σ] [Log ℓ] {q : Http.Request} {o : Outcome}

theorem serve_of_serves (hlog : Log.Returns ℓ) {p : Program} {v : Http.Visit} {s : σ}
    {x : Exchange σ (Journal ℓ)} (h : Serves o v s ((Rest.ready p).poll x)) (n : Nat) :
    let out := serve (n + 1) p x
    out.1 = .returned ∧
      out.2.observer.inner = Transport.release false (Operation.run o.operations s).2 ∧
      ∃ stamp elapsed, out.2.log.asked = [(⟨stamp, v, o.entry elapsed⟩ : Record).bytes] := by
  intro out
  rcases hpoll : (Rest.ready p).poll x with ⟨stop, y⟩
  obtain ⟨hreturned, hinner, hbooks, hclosing⟩ := hpoll ▸ h
  cases hreturned
  have hleave : out = End.returned.leave y := by
    change serve (n + 1) p x = _
    rw [serve, Rest.pollOn, hpoll]
  have hout : out.2 = (y.finish false).2 := by rw [hleave, End.leave_snd]; rfl
  have hrecord : (y.record y.closing).1 = none := Exchange.record_returns (Journal.returns hlog) _ y
  have hentry : o.early?.getD y.closing = o.entry y.now.elapsed := by
    cases o with
    | greeted | switched => exact hclosing rfl
    | told => rfl
  refine ⟨by rw [hleave]; exact End.leave_fst (Journal.returns hlog) .returned y, ?_, ?_⟩
  · rw [hout, ← hinner, ← Exchange.inner_record y.closing y]
    change Transport.release (false || (y.record y.closing).1.isSome) _ = _
    rw [hrecord]
    rfl
  · obtain ⟨stamp, hasked⟩ := (hbooks.finish false).asked
    rw [hentry] at hasked
    exact ⟨stamp, y.now.elapsed, hout ▸ hasked⟩

theorem serve_handler (hlog : Log.Returns ℓ) (hwire : ∀ s : σ, Transport.onWire s = none)
    {hands : Bool} (hcomes : Comes q hands o) {s : σ}
    (hhands : (Transport.handOver s).isSome = hands) (hgrants : Grants o.operations s) (log : ℓ)
    (now : Clock) (n : Nat) :
    let out := serve (n + 1) (handler q) (.enter q s (⟨log, []⟩ : Journal ℓ) now)
    out.1 = .returned ∧
      out.2.observer.inner = Transport.release false (Operation.run o.operations s).2 ∧
      ∃ stamp elapsed, out.2.log.asked = [(⟨stamp, q.visit, o.entry elapsed⟩ : Record).bytes] := by
  have hx : Accounted q.visit none (Exchange.enter q s (⟨log, []⟩ : Journal ℓ) now) :=
    ⟨rfl, rfl, now.stamp, rfl⟩
  exact serve_of_serves hlog (serves hlog hwire hcomes hhands hx rfl hgrants) n

end

theorem attends {q : Http.Request} {o : Outcome} (hcomes : Comes q q.upgrade.isSome o)
    {plan : List (List Demand)} (hstays : ∀ ds ∈ plan, .drop ∉ ds) :
    let t : Shared := { stream := .forRequest q, plan }
    Grants o.operations t ∧ Shared.Attends o.operations (Operation.run o.operations t).2 := by
  intro t
  by_cases hswitched : ∃ protocol, o = .switched protocol
  · obtain ⟨protocol, rfl⟩ := hswitched
    obtain ⟨c, hc⟩ : ∃ c, q.upgrade = some c := by
      cases hcomes with
      | switched _ _ _ hyes => exact Option.isSome_iff_exists.1 hyes
    obtain ⟨hgranted, hattends⟩ := Shared.attends_handOver hstays hc
    have hplain : ∀ op ∈ [Operation.edit (switchHeaders protocol), .sendHead .switchingProtocols],
        op.isPlain := by
      simp [Operation.isPlain]
    have hrest := hattends.run hplain (by simp [Streamed.capacity]) (by simp)
    exact ⟨⟨hgranted, hrest.1⟩, hrest.2⟩
  · rw [not_exists] at hswitched
    refine (Shared.attends_start hstays).run (Outcome.plain_operations hswitched)
      ((Nat.zero_add _).trans_le (o.length_operations.trans (by decide))) fun bs _ head hhead => ?_
    obtain ⟨headers, hsettled⟩ := o.head?_operations {}
    cases hsettled.symm.trans hhead
    exact Outcome.status_ne hswitched

/-- The handler returns, and one record is made of each request. Its status, and its message or
count, are those of the response; it is the one that method, path and upgrade call for. So it is
where the response is kept whole, and where a client reads it to the end, taking turns with the
handler as it likes. -/
theorem response_recorded {ℓ : Type} [Log ℓ] (hlog : Log.Returns ℓ) (q : Http.Request) (log : ℓ)
    (now : Clock) (n : Nat) :
    (let out := serve (n + 1) (handler q) (.enter q ({} : Buffered) (⟨log, []⟩ : Journal ℓ) now)
      let r := out.2.observer.inner.response
      out.1 = .returned ∧ Answers q false r.status ∧
        ∃ stamp e, out.2.log.asked = [(⟨stamp, q.visit, e⟩ : Record).bytes] ∧ Accounts r e) ∧
    ∀ (plan : List (List Demand)) (more : List Demand), (∀ ds ∈ plan, .drop ∉ ds) → .drop ∉ more →
      let start : Shared := { stream := .forRequest q, plan }
      let out := serve (n + 1) (handler q) (.enter q start (⟨log, []⟩ : Journal ℓ) now)
      let t := more.foldl Shared.demand out.2.observer.inner
      out.1 = .returned ∧
        (∀ m, Streamed.capacity ≤ m →
          (Streamed.acts (.head :: List.replicate m .body) t.stream).takeBody.1 = .finished) ∧
        ∃ stamp e, out.2.log.asked = [(⟨stamp, q.visit, e⟩ : Record).bytes] ∧
          (t.stream.takeBody.1 = .finished → ∃ head,
            Streamed.heads t.trace = [head] ∧ Answers q q.upgrade.isSome head.status ∧
              Accounts { toHead := head, body := (Streamed.received t.trace).flatten } e) := by
  constructor
  · intro out r
    obtain ⟨o, hcomes⟩ := exists_comes q false
    have hplain := Outcome.plain_operations (o := o) fun protocol h => by
      subst h
      cases hcomes with
      | switched _ _ _ hyes => cases hyes
    obtain ⟨hreturned, hinner, stamp, elapsed, hasked⟩ :=
      serve_handler hlog (fun _ => rfl) hcomes rfl (Buffered.grants hplain {}) log now n
    have hstatus : r.status = o.status := by
      change out.2.observer.inner.response.status = _
      rw [hinner]
      cases o <;> rfl
    have hbody : r.body = Operation.written o.operations := by
      change out.2.observer.inner.body = _
      rw [hinner]
      exact Buffered.body_run o.operations {}
    exact ⟨hreturned, hstatus ▸ hcomes.answers, stamp, _, hasked, o.accounts hstatus hbody elapsed⟩
  · intro plan more hstays hmore start out t
    obtain ⟨o, hcomes⟩ := exists_comes q q.upgrade.isSome
    obtain ⟨hgrants, hattends⟩ := attends hcomes hstays
    have hhands : (Transport.handOver start).isSome = q.upgrade.isSome := by
      rw [Shared.handOver_start hstays, Option.isSome_map]
    obtain ⟨hreturned, hinner, stamp, elapsed, hasked⟩ :=
      serve_handler hlog (fun _ => rfl) hcomes hhands hgrants log now n
    obtain ⟨headers, hsettled⟩ := o.head?_operations {}
    have hleft : Streamed.Supplied o.operations out.2.observer.inner.trace (some false)
        out.2.observer.inner.stream := by
      rw [hinner]
      exact hattends.supplied.release (hattends.supplied.head_of_head? hsettled)
    have hread : Streamed.Supplied o.operations t.trace (some false) t.stream :=
      Shared.supplied_demands hleft (by simp) hmore
    have hhead : t.stream.head = some ⟨o.status, headers⟩ := hread.head_of_head? hsettled
    refine ⟨hreturned,
      fun m hm => hread.finished hhead (o.length_operations.trans ((by decide : 5 ≤ 8).trans hm)),
      stamp, _, hasked, fun hfinished => ?_⟩
    obtain ⟨hheads, hreceived⟩ := hread.read_of_finished hfinished hhead Outcome.written_of_status
    exact ⟨_, hheads, hcomes.answers, o.accounts rfl hreceived elapsed⟩

theorem response_recorded_of_marks :
    let q : Http.Request := { uri := .origin ⟨['/', '"', '\\', 'é'], none, by decide, by decide⟩ }
    let plan := [[.head, .body], [], [.head], [.body]]
    let start : Shared := { stream := .forRequest q, plan }
    let out := serve (0 + 1) (handler q) (.enter q start (⟨{}, []⟩ : Journal MemoryLog) ⟨"T", {}⟩)
    let reads := .head :: List.replicate 8 .body
    let t := reads.foldl Shared.demand out.2.observer.inner
    Log.Returns MemoryLog ∧ out.1 = .returned ∧ t.stream.takeBody.1 = .finished ∧
      ∃ stamp e head, out.2.log.asked = [(⟨stamp, q.visit, e⟩ : Record).bytes] ∧
        Streamed.heads t.trace = [head] ∧ head.status = .notFound ∧ e.status.toNat = 404 ∧
        (Streamed.received t.trace).flatten = Utf8.encode (Text.quote e.message ++ ['\n']) := by
  intro q plan start out reads t
  have hlog : Log.Returns MemoryLog := nofun
  have hplan : ∀ ds ∈ plan, Demand.drop ∉ ds := by decide
  have hreads : Demand.drop ∉ reads := by decide
  obtain ⟨-, hstream⟩ := response_recorded hlog q {} ⟨"T", {}⟩ 0
  obtain ⟨-, hlast, -⟩ := hstream plan [] hplan List.not_mem_nil
  obtain ⟨hreturned, -, stamp, e, hasked, hread⟩ := hstream plan reads hplan hreads
  have hfinished : t.stream.takeBody.1 = .finished := by
    rw [(Shared.stream_demands reads out.2.observer.inner).1]
    exact hlast 8 (Nat.le_refl 8)
  obtain ⟨head, hheads, hanswers, haccounts⟩ := hread hfinished
  have hstatus : head.status = .notFound := hanswers.notFound.2 ⟨by decide, by decide⟩
  have hcode : e.status.toNat = 404 := haccounts.status.trans (congrArg (·.code) hstatus)
  obtain ⟨-, -, -, hbody⟩ := haccounts.failed (by rw [hstatus]; decide) (by rw [hstatus]; decide)
  refine ⟨hlog, hreturned, hfinished, stamp, e, head, hasked, hheads, hstatus, hcode, ?_⟩
  rw [← hbody]

end Demo

end AccessTrail
