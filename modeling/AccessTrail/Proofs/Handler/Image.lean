import AccessTrail.Handler.Run
import AccessTrail.Proofs.Transport.Operation

namespace AccessTrail

variable {σ τ ℓ : Type} {f : τ → σ}

def Observer.map (f : τ → σ) (o : Observer τ) : Observer σ := { o with inner := f o.inner }

namespace Exchange

def map (f : τ → σ) (x : Exchange τ ℓ) : Exchange σ ℓ := { x with observer := x.observer.map f }

@[simp] theorem observer_map (x : Exchange τ ℓ) : (x.map f).observer = x.observer.map f := rfl

@[simp] theorem inner_map (x : Exchange τ ℓ) : (x.map f).observer.inner = f x.observer.inner := rfl

theorem record_map [Log ℓ] (e : Entry) (x : Exchange τ ℓ) :
    (x.map f).record e = (x.record e).map id (map f) := by
  have hline : (x.map f).line e = x.line e := rfl
  have hlog : (x.map f).log = x.log := rfl
  have hlogged : (x.map f).observer.logged = x.observer.logged := rfl
  rw [record, record, hline, hlog, hlogged]
  split
  · rfl
  · rcases Log.append (x.line e).bytes x.log with ⟨_ | _ | _, log⟩ <;> rfl

end Exchange

variable [Transport σ] [Transport τ]

/-- What is asked and what is counted cannot tell `f t` from `t`. -/
structure Transport.Carries (f : τ → σ) : Prop extends Transport.Passes f where
  onWire : ∀ t, Transport.onWire (f t) = Transport.onWire t

theorem Transport.Passes.sendAll (hf : Transport.Passes f) (bs : Bytes) (t : τ) :
    Transport.sendAll bs (f t) = (Transport.sendAll bs t).map id f := by
  fun_induction Transport.sendAll bs t with
  | case1 => rw [Transport.sendAll]; rfl
  | case2 t b bs again t' hw => rw [Transport.sendAll, hf.write, hw]; rfl
  | case3 t b bs fault t' hw hk => rw [Transport.sendAll, hf.write, hw]; simp [hk]
  | case4 t b bs fault t' hw hk => rw [Transport.sendAll, hf.write, hw]; simp [hk]
  | case5 t b bs t' hw => rw [Transport.sendAll, hf.write, hw]; rfl
  | case6 t b bs t' n hw hn ih => rw [Transport.sendAll, hf.write, hw]; simp [hn, ih]
  | case7 t b bs t' n hw hn => rw [Transport.sendAll, hf.write, hw]; simp [hn]

theorem Observer.carries_map (hf : Transport.Carries f) : Transport.Carries (Observer.map f) where
  headers o := hf.headers o.inner
  editHeaders change o :=
    congrArg (Observer.mk · o.visit o.tally o.logged) (hf.editHeaders change o.inner)
  sendHead status o := by
    change sendHead status (o.map f) = (sendHead status o).map _ _
    rw [sendHead, map, hf.sendHead]
    rfl
  write bs o := by
    change write bs (o.map f) = (write bs o).map _ _
    rw [write, map, hf.write, write]
    cases Transport.write bs o.inner with
    | mk answer t =>
      rcases answer with (_ | _) | _
      · rfl
      · simp [map, hf.onWire]
      · rfl
  flush o :=
    congrArg (fun r : _ × σ => (r.1, Observer.mk r.2 o.visit o.tally o.logged)) (hf.flush o.inner)
  close o :=
    congrArg (fun r : _ × σ => (r.1, Observer.mk r.2 o.visit o.tally o.logged)) (hf.close o.inner)
  handOver o := by
    change (Transport.handOver (f o.inner)).map _ = ((Transport.handOver o.inner).map _).map _
    rw [hf.handOver]
    cases Transport.handOver o.inner <;> rfl
  onWire _ := rfl

theorem Exchange.replyHead_map (hf : Transport.Carries f) (status : Http.Status)
    (x : Exchange τ ℓ) :
    (x.map f).replyHead status = (x.replyHead status).map f := by
  rw [replyHead, inner_map, hf.editHeaders, hf.sendHead]
  rfl

namespace Work

theorem pollReply_map (hf : Transport.Carries f) (parts : List Bytes) (x : Exchange τ ℓ) :
    pollReply parts (x.map f) = (pollReply parts x).map id (.map f) := by
  induction parts generalizing x with
  | nil =>
    rw [pollReply, pollReply, Exchange.inner_map, hf.flush]
    rcases Transport.flush x.observer.inner with ⟨(_ | _) | _, t⟩ <;> rfl
  | cons part parts ih =>
    rw [pollReply, pollReply, Exchange.inner_map, hf.sendAll]
    rcases Transport.sendAll part x.observer.inner with ⟨(_ | _) | _ | _, t⟩
    · rfl
    · exact ih (x.setInner t)
    · rfl
    · rfl

variable [Log ℓ]

theorem fail_map (hf : Transport.Carries f) (status : Http.Status) (failure : Failure)
    (x : Exchange τ ℓ) :
    fail status failure (x.map f) = (fail status failure x).map id (.map f) := by
  rw [fail, fail, Exchange.record_map]
  rcases x.record (Exchange.failing status failure) with ⟨_ | message, y⟩
  · let z := y.setStatus status
    change (if z.observer.tally.sent = 0 then pollReply _ ((z.map f).replyHead status)
        else (.finished .done, z.map f)) =
      (if z.observer.tally.sent = 0 then pollReply _ (z.replyHead status)
        else (.finished .done, z)).map id (.map f)
    rw [Exchange.replyHead_map hf, pollReply_map hf, apply_ite (Prod.map id (Exchange.map f))]
    rfl
  · rfl

theorem pollCommand_map (hf : Transport.Carries f) (c : Command) (x : Exchange τ ℓ) :
    pollCommand c (x.map f) = (pollCommand c x).map id (.map f) := by
  have ho := Observer.carries_map hf
  cases c with
  | write bs =>
    rw [pollCommand, Exchange.observer_map, ho.write, pollCommand]
    rcases Transport.write bs x.observer with ⟨(_ | _) | _, o⟩ <;> rfl
  | writeAll bs =>
    rw [pollCommand, Exchange.observer_map, ho.sendAll, pollCommand]
    rcases Transport.sendAll bs x.observer with ⟨_ | _ | _, o⟩ <;> rfl
  | flush =>
    rw [pollCommand, attempt, Exchange.observer_map, ho.flush, pollCommand, attempt]
    rcases Transport.flush x.observer with ⟨_ | _, o⟩ <;> rfl
  | close =>
    rw [pollCommand, attempt, Exchange.observer_map, ho.close, pollCommand, attempt]
    rcases Transport.close x.observer with ⟨_ | _, o⟩ <;> rfl
  | sendHead status =>
    rw [pollCommand, Exchange.observer_map, ho.sendHead, pollCommand]
    rfl
  | edit change =>
    rw [pollCommand, Exchange.observer_map, ho.editHeaders, pollCommand]
    rfl
  | record e =>
    rw [pollCommand, Exchange.record_map, pollCommand]
    rcases x.record e with ⟨_ | message, y⟩ <;> rfl
  | fail status failure => exact fail_map hf status failure x
  | handOver =>
    rw [pollCommand, Exchange.observer_map, ho.handOver, pollCommand]
    rcases Transport.handOver x.observer with _ | ⟨_ | _, o⟩ <;> rfl
  | offers =>
    rw [pollCommand, Exchange.observer_map, ho.handOver, pollCommand, Option.isSome_map]
    rfl
  | headers =>
    rw [pollCommand, Exchange.observer_map, ho.headers, pollCommand]
    rfl
  | sendRaw | tally | note | yield | stall => rfl

theorem poll_map (hf : Transport.Carries f) (w : Work) (x : Exchange τ ℓ) :
    w.poll (x.map f) = (w.poll x).map id (.map f) := by
  cases w with
  | command c => exact pollCommand_map hf c x
  | reply parts => exact pollReply_map hf parts x
  | yielded => rfl

end Work

variable [Log ℓ]

theorem Program.run_map (hf : Transport.Carries f) (p : Program) (woken : Bool) (x : Exchange τ ℓ) :
    p.run woken (x.map f) = (p.run woken x).map id (.map f) := by
  induction p generalizing woken x with
  | done => rfl
  | crash message => rfl
  | step c next ih =>
    rw [Program.run, Program.run, Work.pollCommand_map hf]
    rcases Work.pollCommand c x with ⟨r | _ | _, y⟩
    · exact ih r (woken || r.wakes) (y.tell r)
    · rfl
    · rfl

theorem Rest.poll_map (hf : Transport.Carries f) (r : Rest) (x : Exchange τ ℓ) :
    r.poll (x.map f) = (r.poll x).map id (.map f) := by
  cases r with
  | ready p => exact p.run_map hf false x
  | within w next =>
    rw [Rest.poll, Rest.poll, Work.poll_map hf]
    rcases w.poll x with ⟨r | _ | _, y⟩
    · exact (next r).run_map hf r.wakes (y.tell r)
    · rfl
    · rfl

end AccessTrail
