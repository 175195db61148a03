import AccessTrail.Proofs.Handler.Course
import AccessTrail.Proofs.Transport.Delay

namespace AccessTrail

variable {σ τ ℓ : Type}

def Command.isPlain : Command → Bool
  | .write bs => bs.isEmpty
  | .writeAll _ | .flush | .sendHead _ | .edit _ | .record _ | .fail .. | .tally => true
  | .close | .handOver | .offers | .sendRaw _ | .headers | .note _ | .yield | .stall => false

def Work.isPlain : Work → Bool
  | command c => c.isPlain
  | reply _ => true
  | yielded => false

inductive Program.Plain : Program → Prop
  | done : Plain .done
  | step {c next} : c.isPlain → (∀ r, (next r).Plain) → Plain (.step c next)

inductive Rest.Plain : Rest → Prop
  | ready {p} : p.Plain → Plain (.ready p)
  | within {w next} : w.isPlain → (∀ r, (next r).Plain) → Plain (.within w next)

theorem Program.plain_sequence {cs : List Command} (h : ∀ c ∈ cs, c.isPlain) :
    (sequence cs .done).Plain := by
  induction cs with
  | nil => exact .done
  | cons c cs ih =>
    rw [List.forall_mem_cons] at h
    exact .step h.1 fun _ => ih h.2

namespace Exchange

structure Alike (R : σ → τ → Prop) (v : Http.Visit) (x : Exchange σ (Journal ℓ))
    (y : Exchange τ (Journal ℓ)) : Prop where
  inner : R x.observer.inner y.observer.inner
  tally : y.observer.tally = x.observer.tally
  books : ∃ e?, Accounted v e? x ∧ Accounted v e? y

namespace Alike

variable {R : σ → τ → Prop} {v : Http.Visit} {x : Exchange σ (Journal ℓ)}
  {y : Exchange τ (Journal ℓ)}

theorem observer (h : Alike R v x y) : Observer.Alike R x.observer y.observer := by
  obtain ⟨_, hx, hy⟩ := h.books
  exact ⟨h.inner, hy.visit.trans hx.visit.symm, h.tally, hy.logged.trans hx.logged.symm⟩

theorem unrecorded (h : Alike R v x y) {x' : Exchange σ (Journal ℓ)} {y' : Exchange τ (Journal ℓ)}
    (hx : Unrecorded x x') (hy : Unrecorded y y') (hinner : R x'.observer.inner y'.observer.inner)
    (htally : y'.observer.tally = x'.observer.tally) : Alike R v x' y' := by
  obtain ⟨_, hbx, hby⟩ := h.books
  exact ⟨hinner, htally, _, hbx.unrecorded hx, hby.unrecorded hy⟩

theorem setInner (h : Alike R v x y) {a : σ} {b : τ} (hab : R a b) :
    Alike R v (x.setInner a) (y.setInner b) :=
  h.unrecorded (.setInner a x) (.setInner b y) hab h.tally

theorem setObserver (h : Alike R v x y) {o : Observer σ} {o' : Observer τ}
    (ho : Observer.Alike R o o') (hbooks : y.observer.SameBooks o') :
    Alike R v (Work.setObserver o x) (Work.setObserver o' y) := by
  have hold := h.observer
  have hx : x.observer.SameBooks o :=
    ⟨ho.visit.symm.trans (hbooks.1.trans hold.visit),
      ho.logged.symm.trans (hbooks.2.trans hold.logged)⟩
  exact h.unrecorded (Work.unrecorded_setObserver hx) (Work.unrecorded_setObserver hbooks)
    ho.inner ho.tally

theorem tell (h : Alike R v x y) (r : Reply) : Alike R v (x.tell r) (y.tell r) := by
  obtain ⟨e?, hx, hy⟩ := h.books
  exact ⟨h.inner, h.tally, e?, hx.tell r, hy.tell r⟩

variable [Log ℓ]

theorem record (h : Alike R v x y) (e : Entry) : Alike R v (x.record e).2 (y.record e).2 := by
  obtain ⟨e?, hx, hy⟩ := h.books
  refine ⟨?_, by rw [tally_record, tally_record, h.tally], ?_⟩
  · rw [inner_record, inner_record]
    exact h.inner
  · cases e? with
    | none => exact ⟨some e, hx.recorded (recorded_record hx.logged),
        hy.recorded (recorded_record hy.logged)⟩
    | some first =>
      rw [record_of_logged hx.logged, record_of_logged hy.logged]
      exact ⟨some first, hx, hy⟩

end Alike

end Exchange

open Exchange (Alike)

variable [Transport σ] [Transport τ]

namespace Work

theorem pollReply_of_flushed {z : Exchange σ ℓ}
    (h : Transport.flush z.observer.inner = (.done (.ok ()), z.observer.inner)) :
    pollReply [] z = (.finished .done, z) := by
  rw [pollReply, h]
  rfl

theorem pollReply_of_waiting {part : Bytes} {parts : List Bytes} {z : Exchange σ ℓ} {s : σ}
    (h : Transport.sendAll part z.observer.inner = (.waiting false part, s)) :
    pollReply (part :: parts) z = (.waiting false (.reply (part :: parts)), z.setInner s) := by
  rw [pollReply, h]

theorem pollReply_congr {part : Bytes} {parts : List Bytes} {z : Exchange σ ℓ} {s : σ}
    (h : Transport.sendAll part s = Transport.sendAll part z.observer.inner) :
    pollReply (part :: parts) (z.setInner s) = pollReply (part :: parts) z := by
  have hs : Transport.sendAll part (z.setInner s).observer.inner = _ := h
  rw [pollReply, pollReply, hs]
  rfl

end Work

variable [Log ℓ]

namespace Work

theorem pollCommand_of_waiting {bs : Bytes} {z : Exchange σ ℓ} {o : Observer σ}
    (h : Transport.sendAll bs z.observer = (.waiting false bs, o)) :
    pollCommand (.writeAll bs) z = (.waiting false (.command (.writeAll bs)), setObserver o z) := by
  simp only [pollCommand]
  rw [h]

theorem pollCommand_congr {bs : Bytes} {z : Exchange σ ℓ} {o : Observer σ}
    (h : Transport.sendAll bs o = Transport.sendAll bs z.observer) :
    pollCommand (.writeAll bs) (setObserver o z) = pollCommand (.writeAll bs) z := by
  have ho : Transport.sendAll bs (setObserver o z).observer = _ := h
  simp only [pollCommand]
  rw [ho]
  rfl

end Work

/-- What a poll comes to, where a poll with the other transport comes to `whole`. Either goes its
own way only if its log crashes. -/
inductive Polled.Follows (R : σ → τ → Prop) (Busy : τ → Prop) (v : Http.Visit)
    (whole : Polled × Exchange σ (Journal ℓ)) : Polled × Exchange τ (Journal ℓ) → Prop
  | finished {r x y} : whole = (.finished r, x) → r.wakes = false → Alike R v x y →
    Follows R Busy v whole (.finished r, y)
  | waiting {w x y} : w.isPlain → Alike R v x y → Busy y.observer.inner → w.poll x = whole →
    Follows R Busy v whole (.waiting false w, y)
  | crashed {message y} : ¬Log.Returns (Journal ℓ) → Follows R Busy v whole (.crashed message, y)
  | abandoned {message x stop} : ¬Log.Returns (Journal ℓ) → whole = (.crashed message, x) →
    Follows R Busy v whole stop

namespace Work

variable {R : σ → τ → Prop} {Busy : τ → Prop} {v : Http.Visit} {x : Exchange σ (Journal ℓ)}
  {y : Exchange τ (Journal ℓ)}

theorem follows_pollReply (hR : Transport.Delays R Busy) (parts : List Bytes) (h : Alike R v x y) :
    Polled.Follows R Busy v (pollReply parts x) (pollReply parts y) := by
  induction parts generalizing x y with
  | nil =>
    obtain ⟨hx, hy⟩ := hR.flush h.inner
    rw [pollReply_of_flushed hy]
    exact .finished (pollReply_of_flushed hx) rfl h
  | cons part parts ih =>
    cases hR.sendAll part h.inner with
    | taken hx hy hinner =>
      rw [pollReply, pollReply, hx, hy]
      exact ih (h.setInner hinner)
    | held hy hinner hbusy hx =>
      rw [pollReply_of_waiting hy]
      exact .waiting rfl (h.setInner hinner) hbusy (pollReply_congr hx)

theorem follows_fail (hR : Transport.Delays R Busy) (status : Http.Status) (f : Failure)
    (h : Alike R v x y) : Polled.Follows R Busy v (fail status f x) (fail status f y) := by
  have hrecord := h.record (Exchange.failing status f)
  rcases hx : x.record (Exchange.failing status f) with ⟨_ | message, x'⟩
  · rcases hy : y.record (Exchange.failing status f) with ⟨_ | message, y'⟩
    · rw [hx, hy] at hrecord
      have hstatus : Alike R v (x'.setStatus status) (y'.setStatus status) :=
        hrecord.unrecorded (.setStatus status x') (.setStatus status y') hrecord.inner
          (congrArg (fun t : Tally => { t with status := some status }) hrecord.tally)
      have hhead : Alike R v ((x'.setStatus status).replyHead status)
          ((y'.setStatus status).replyHead status) :=
        hstatus.unrecorded (.replyHead status _) (.replyHead status _)
          (hR.sendHead status (hR.editHeaders Exchange.plainText hstatus.inner)) hstatus.tally
      rw [fail, fail, hx, hy]
      simp only
      rw [hstatus.tally]
      split
      · exact follows_pollReply hR _ hhead
      · exact .finished rfl rfl hstatus
    · rw [fail, fail, hy]
      exact .crashed (Exchange.not_returns_of_record hy)
  · exact .abandoned (Exchange.not_returns_of_record hx) (by rw [fail, hx])

theorem follows_pollCommand (hR : Transport.Delays R Busy) {c : Command} (hc : c.isPlain)
    (h : Alike R v x y) : Polled.Follows R Busy v (pollCommand c x) (pollCommand c y) := by
  have hO := Observer.delays hR
  cases c with
  | close | handOver | offers | sendRaw | headers | note | yield | stall => cases hc
  | fail status f => exact follows_fail hR status f h
  | tally =>
    refine .finished (x := x) ?_ rfl h
    rw [h.tally, h.observer.logged]
    rfl
  | edit change =>
    exact .finished rfl rfl (h.setObserver (hO.editHeaders change h.observer) ⟨rfl, rfl⟩)
  | sendHead status =>
    have hsent := hO.sendHead status h.observer
    exact .finished rfl rfl (h.unrecorded ⟨rfl, rfl, rfl, rfl, rfl⟩ ⟨rfl, rfl, rfl, rfl, rfl⟩
      hsent.inner hsent.tally)
  | flush =>
    obtain ⟨hx, hy⟩ := hO.flush h.observer
    simp only [pollCommand, attempt]
    rw [hx, hy]
    exact .finished rfl rfl h
  | record e =>
    have hrecord := h.record e
    simp only [pollCommand]
    rcases hx : x.record e with ⟨_ | message, x'⟩
    · rcases hy : y.record e with ⟨_ | message, y'⟩
      · rw [hx, hy] at hrecord
        exact .finished rfl rfl hrecord
      · exact .crashed (Exchange.not_returns_of_record hy)
    · exact .abandoned (Exchange.not_returns_of_record hx) rfl
  | write bs =>
    cases List.isEmpty_iff.1 hc
    have hbooks := Observer.sameBooks_write [] y.observer
    simp only [pollCommand]
    cases hO.write [] h.observer with
    | taken hx hy ho =>
      rw [hy] at hbooks
      rw [hx, hy]
      exact .finished rfl rfl (h.setObserver ho hbooks)
    | held hbs => exact absurd rfl hbs
  | writeAll bs =>
    have hbooks := Observer.sameBooks_sendAll bs y.observer
    cases hO.sendAll bs h.observer with
    | taken hx hy ho =>
      rw [hy] at hbooks
      simp only [pollCommand]
      rw [hx, hy]
      exact .finished rfl rfl (h.setObserver ho hbooks)
    | held hy ho hbusy hx =>
      rw [hy] at hbooks
      rw [pollCommand_of_waiting hy]
      exact .waiting rfl (h.setObserver ho hbooks) hbusy (pollCommand_congr hx)

theorem follows_poll (hR : Transport.Delays R Busy) {w : Work} (hw : w.isPlain)
    (h : Alike R v x y) :
    Polled.Follows R Busy v (w.poll x) (w.poll y) := by
  cases w with
  | command c => exact follows_pollCommand hR hw h
  | reply parts => exact follows_pollReply hR parts h
  | yielded => cases hw

end Work

inductive Stop.Follows (R : σ → τ → Prop) (Busy : τ → Prop) (v : Http.Visit)
    (whole : Stop × Exchange σ (Journal ℓ)) : Stop × Exchange τ (Journal ℓ) → Prop
  | returned {x y} : whole = (.returned, x) → Alike R v x y → Follows R Busy v whole (.returned, y)
  | waiting {again rest x y} : rest.Plain → Alike R v x y → Busy y.observer.inner →
      rest.poll x = whole →
    Follows R Busy v whole (.waiting again rest, y)
  | crashed {message y} : ¬Log.Returns (Journal ℓ) → Follows R Busy v whole (.crashed message, y)
  | abandoned {message x stop} : ¬Log.Returns (Journal ℓ) → whole = (.crashed message, x) →
    Follows R Busy v whole stop

variable {R : σ → τ → Prop} {Busy : τ → Prop} {v : Http.Visit} {x : Exchange σ (Journal ℓ)}
  {y : Exchange τ (Journal ℓ)}

theorem Program.run_step (c : Command) (next : Reply → Program) (x : Exchange σ ℓ) :
    (step c next).run false x = (Rest.within (.command c) next).poll x := by
  rw [run, Rest.poll, Work.poll]
  simp only [Bool.false_or, Bool.or_false]

namespace Rest

variable {w : Work} {next : Reply → Program} {z z' : Exchange σ ℓ}

theorem poll_of_finished {r : Reply} (h : w.poll z = (.finished r, z')) :
    (within w next).poll z = (next r).run r.wakes (z'.tell r) := by
  rw [poll, h]

theorem poll_of_waiting {again : Bool} {w' : Work} (h : w.poll z = (.waiting again w', z')) :
    (within w next).poll z = (.waiting again (.within w' next), z') := by
  rw [poll, h]

theorem poll_of_crashed {message : String} (h : w.poll z = (.crashed message, z')) :
    (within w next).poll z = (.crashed message, z') := by
  rw [poll, h]

end Rest

theorem Rest.follows_within (hR : Transport.Delays R Busy) {w : Work} {next : Reply → Program}
    (hw : w.isPlain) (hnext : ∀ r, (next r).Plain)
    (hrun : ∀ r {x : Exchange σ (Journal ℓ)} {y : Exchange τ (Journal ℓ)}, Alike R v x y →
      Stop.Follows R Busy v ((next r).run false x) ((next r).run false y))
    (h : Alike R v x y) :
    Stop.Follows R Busy v ((within w next).poll x) ((within w next).poll y) := by
  have hpoll := Work.follows_poll hR hw h
  generalize hy : w.poll y = polled at hpoll
  cases hpoll with
  | finished hx hr halike =>
    rw [poll_of_finished hx, poll_of_finished hy, hr]
    exact hrun _ (halike.tell _)
  | waiting hw halike hbusy hx =>
    rw [poll_of_waiting hy]
    refine .waiting (.within hw hnext) halike hbusy ?_
    rw [poll, poll, hx]
  | crashed hlog =>
    rw [poll_of_crashed hy]
    exact .crashed hlog
  | abandoned hlog hx => exact .abandoned hlog (poll_of_crashed hx)

theorem Program.follows_run (hR : Transport.Delays R Busy) {p : Program} (hp : p.Plain)
    (h : Alike R v x y) : Stop.Follows R Busy v (p.run false x) (p.run false y) := by
  induction hp generalizing x y with
  | done => exact .returned rfl h
  | step hc hnext ih =>
    rw [run_step, run_step]
    exact Rest.follows_within hR hc hnext (fun r _ _ => ih r) h

theorem Rest.follows_poll (hR : Transport.Delays R Busy) {r : Rest} (hr : r.Plain)
    (h : Alike R v x y) :
    Stop.Follows R Busy v (r.poll x) (r.poll y) := by
  cases hr with
  | ready hp => exact Program.follows_run hR hp h
  | within hw hnext =>
    exact Rest.follows_within hR hw hnext (fun r _ _ => Program.follows_run hR (hnext r)) h

end AccessTrail
