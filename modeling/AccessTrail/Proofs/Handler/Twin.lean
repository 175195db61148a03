import AccessTrail.Proofs.Serving
import AccessTrail.Proofs.Handler.Counting

/-!
The same request over two logs. As long as an append returns, no one but the log can tell what
became of the record: all that is asked, answered and noted in one run is asked, answered and noted
in the other.
-/

namespace AccessTrail

variable {σ ℓ ℓ' α : Type}

def Notice.isLoss : Notice → Bool
  | recordLost _ => true
  | _ => false

namespace Exchange

/-- Two exchanges differ in their logs and clocks, and in what was noticed of lost records. -/
structure Twin (x : Exchange σ ℓ) (y : Exchange σ ℓ') : Prop where
  observer : y.observer = x.observer
  replies : y.replies = x.replies
  raw : y.raw = x.raw
  notices : y.notices.filter (!·.isLoss) = x.notices.filter (!·.isLoss)

structure Twins (p : α × Exchange σ ℓ) (q : α × Exchange σ ℓ') : Prop where
  answer : q.1 = p.1
  exchange : p.2.Twin q.2

theorem Twins.split {p : α × Exchange σ ℓ} {q : α × Exchange σ ℓ'} (h : Twins p q) :
    ∃ a x y, p = (a, x) ∧ q = (a, y) ∧ x.Twin y :=
  ⟨p.1, p.2, q.2, rfl, Prod.ext h.answer rfl, h.exchange⟩

theorem twin_enter (q : Http.Request) (s : σ) (log : ℓ) (log' : ℓ') (now now' : Clock) :
    (enter q s log now).Twin (enter q s log' now') := ⟨rfl, rfl, rfl, rfl⟩

namespace Twin

variable {x : Exchange σ ℓ} {y : Exchange σ ℓ'}

theorem notices_append (h : x.Twin y) (ns : List Notice) :
    (y.notices ++ ns).filter (!·.isLoss) = (x.notices ++ ns).filter (!·.isLoss) := by
  rw [List.filter_append, List.filter_append, h.notices]

theorem note (h : x.Twin y) (n : Notice) : (x.note n).Twin (y.note n) :=
  ⟨h.observer, h.replies, h.raw, h.notices_append [n]⟩

theorem tell (h : x.Twin y) (r : Reply) : (x.tell r).Twin (y.tell r) :=
  ⟨h.observer, congrArg (· ++ [r]) h.replies, h.raw, h.notices⟩

theorem setObserver (h : x.Twin y) (o : Observer σ) :
    (Work.setObserver o x).Twin (Work.setObserver o y) :=
  ⟨rfl, h.replies, h.raw, h.notices⟩

theorem setInner (h : x.Twin y) (s : σ) : (x.setInner s).Twin (y.setInner s) :=
  ⟨congrArg ({ · with inner := s }) h.observer, h.replies, h.raw, h.notices⟩

theorem setStatus (h : x.Twin y) (status : Http.Status) :
    (x.setStatus status).Twin (y.setStatus status) :=
  ⟨congrArg ({ · with tally.status := some status }) h.observer, h.replies, h.raw, h.notices⟩

end Twin

variable [Log ℓ] [Log ℓ']

theorem record_of_unlogged (hℓ : Log.Returns ℓ) {x : Exchange σ ℓ} (hx : x.observer.logged = false)
    (e : Entry) :
    ∃ log losses, (∀ n ∈ losses, n.isLoss) ∧
      x.record e = (none, { x with
        observer.logged := true
        log := log
        notices := x.notices ++
          .recorded x.observer.visit.method x.observer.visit.uri e.status e.bytes :: losses }) := by
  rw [record, if_neg (by simp [hx])]
  simp only
  split
  next log _ => exact ⟨log, [], fun _ hn => absurd hn List.not_mem_nil, rfl⟩
  next f log _ =>
    exact ⟨log, [.recordLost f.text], by simp [Notice.isLoss], by simp [Exchange.note]⟩
  next hlog => exact absurd (congrArg Prod.fst hlog) (hℓ _ _ _)

theorem Twin.record (hℓ : Log.Returns ℓ) (hℓ' : Log.Returns ℓ') {x : Exchange σ ℓ}
    {y : Exchange σ ℓ'} (h : x.Twin y) {e e' : Entry} (hstatus : e'.status = e.status)
    (hbytes : e'.bytes = e.bytes) :
    Twins (x.record e) (y.record e') := by
  cases hx : x.observer.logged with
  | true =>
    have hy : y.observer.logged = true := by rw [h.observer, hx]
    rw [record_of_logged hx, record_of_logged hy]
    exact ⟨rfl, h⟩
  | false =>
    have hy : y.observer.logged = false := by rw [h.observer, hx]
    obtain ⟨log, losses, hlosses, hrecord⟩ := record_of_unlogged hℓ hx e
    obtain ⟨log', losses', hlosses', hrecord'⟩ := record_of_unlogged hℓ' hy e'
    have hnone : ∀ ns : List Notice, (∀ n ∈ ns, n.isLoss) → ns.filter (!·.isLoss) = [] := by
      intro ns hns
      simpa [List.filter_eq_nil_iff] using hns
    rw [hrecord, hrecord']
    refine ⟨rfl, ⟨congrArg ({ · with logged := true }) h.observer, h.replies, h.raw, ?_⟩⟩
    simp only [List.filter_append, List.filter_cons, hnone _ hlosses, hnone _ hlosses', h.notices,
      h.observer, hstatus, hbytes]

end Exchange

open Exchange (Twin Twins)

variable {x : Exchange σ ℓ} {y : Exchange σ ℓ'}

structure Interlude.Twin (i : Interlude σ ℓ) (j : Interlude σ ℓ') : Prop where
  inner : j.inner = i.inner
  instead : j.instead = i.instead

namespace Interlude.Twin

variable {i : Interlude σ ℓ} {j : Interlude σ ℓ'}

theorem pass (hij : i.Twin j) (h : x.Twin y) : (i.pass x).Twin (j.pass y) := by
  have hinner : j.inner y.observer.inner = i.inner x.observer.inner := by rw [hij.inner, h.observer]
  rw [Interlude.pass, Interlude.pass, hinner]
  exact ⟨(h.setInner _).observer, h.replies, h.raw, h.notices⟩

theorem after (hij : i.Twin j) (r : Rest) : r.after j = r.after i := by
  rw [Rest.after, Rest.after, hij.instead]

end Interlude.Twin

namespace Work

theorem twins_replied (h : x.Twin y) (answer : Except Fault Unit) :
    Twins (replied answer x) (replied answer y) := by
  cases answer with
  | ok => exact ⟨rfl, h⟩
  | error f => exact ⟨rfl, h.note _⟩

theorem twins_attempt (h : x.Twin y) (c : Command)
    (act : Observer σ → Attempt (Except Fault Unit) × Observer σ) :
    Twins (attempt c act x) (attempt c act y) := by
  rw [attempt, attempt, h.observer]
  rcases act x.observer with ⟨_ | _, o⟩ <;> exact ⟨rfl, h.setObserver o⟩

end Work

variable [Transport σ]

theorem Exchange.Twin.replyHead (h : x.Twin y) (status : Http.Status) :
    (x.replyHead status).Twin (y.replyHead status) := by
  have hinner : y.observer.inner = x.observer.inner := congrArg Observer.inner h.observer
  unfold Exchange.replyHead
  rw [hinner]
  exact ⟨(h.setInner _).observer, h.replies, h.raw, h.notices_append _⟩

namespace Work

theorem twins_pollReply (h : x.Twin y) (parts : List Bytes) :
    Twins (pollReply parts x) (pollReply parts y) := by
  have hinner : ∀ {x : Exchange σ ℓ} {y : Exchange σ ℓ'}, x.Twin y →
      y.observer.inner = x.observer.inner :=
    fun h => congrArg Observer.inner h.observer
  induction parts generalizing x y with
  | nil =>
    rw [pollReply, pollReply, hinner h]
    rcases Transport.flush x.observer.inner with ⟨answer | again, s⟩
    · exact twins_replied (h.setInner s) answer
    · exact ⟨rfl, h.setInner s⟩
  | cons part parts ih =>
    rw [pollReply, pollReply, hinner h]
    rcases Transport.sendAll part x.observer.inner with ⟨(f | _) | ⟨again, rest⟩ | _, s⟩
    · exact twins_replied (h.setInner s) (.error f)
    · exact ih (h.setInner s)
    · exact ⟨rfl, h.setInner s⟩
    · exact ⟨rfl, h.setInner s⟩

variable [Log ℓ] [Log ℓ'] (hℓ : Log.Returns ℓ) (hℓ' : Log.Returns ℓ')
include hℓ hℓ'

theorem twins_fail (h : x.Twin y) (status : Http.Status) (f : Failure) :
    Twins (fail status f x) (fail status f y) := by
  obtain ⟨crash, x', y', hx, hy, htwin⟩ :=
    (h.record hℓ hℓ' (e := Exchange.failing status f) rfl rfl).split
  rw [fail, fail, hx, hy]
  cases crash with
  | some message => exact ⟨rfl, htwin⟩
  | none =>
    have hset := htwin.setStatus status
    simp only
    rw [hset.observer]
    split
    · exact twins_pollReply (hset.replyHead status) _
    · exact ⟨rfl, hset⟩

theorem twins_pollCommand (h : x.Twin y) (c : Command) :
    Twins (pollCommand c x) (pollCommand c y) := by
  cases c with
  | write bs =>
    rw [pollCommand, pollCommand, h.observer]
    rcases Transport.write bs x.observer with ⟨(_ | _) | _, o⟩ <;> exact ⟨rfl, h.setObserver o⟩
  | writeAll bs =>
    rw [pollCommand_writeAll, pollCommand_writeAll, h.observer]
    exact ⟨rfl, h.setObserver _⟩
  | flush => exact twins_attempt h .flush Transport.flush
  | close => exact twins_attempt h .close Transport.close
  | sendHead status =>
    rw [pollCommand, pollCommand, h.observer]
    exact ⟨rfl, ⟨rfl, h.replies, h.raw, h.notices_append _⟩⟩
  | edit change =>
    rw [pollCommand, pollCommand, h.observer]
    exact ⟨rfl, h.setObserver _⟩
  | record e =>
    obtain ⟨crash, x', y', hx, hy, htwin⟩ := (h.record hℓ hℓ' (e := e) rfl rfl).split
    rw [pollCommand, pollCommand, hx, hy]
    cases crash <;> exact ⟨rfl, htwin⟩
  | fail status f => exact twins_fail hℓ hℓ' h status f
  | handOver =>
    rw [pollCommand, pollCommand, h.observer]
    rcases Transport.handOver x.observer with _ | ⟨_ | _, o⟩
    · exact ⟨rfl, h⟩
    · exact ⟨rfl, h.setObserver o⟩
    · exact ⟨rfl, h.setObserver o⟩
  | offers =>
    rw [pollCommand, pollCommand, h.observer]
    exact ⟨rfl, h⟩
  | sendRaw bs => exact ⟨rfl, h.observer, h.replies, congrArg (· ++ bs) h.raw, h.notices⟩
  | headers | tally =>
    rw [pollCommand, pollCommand, h.observer]
    exact ⟨rfl, h⟩
  | note n => exact ⟨rfl, h.note n⟩
  | yield | stall => exact ⟨rfl, h⟩

theorem twins_poll (h : x.Twin y) (w : Work) : Twins (w.poll x) (w.poll y) := by
  cases w with
  | command c => exact twins_pollCommand hℓ hℓ' h c
  | reply parts => exact twins_pollReply h parts
  | yielded => exact ⟨rfl, h⟩

end Work

section

variable [Log ℓ]

def Program.points : Program → Exchange σ ℓ → List (Polled × Observer σ)
  | .done, _ | .crash _, _ => []
  | .step c next, x =>
    let (answer, y) := Work.pollCommand c x
    (answer, y.observer) ::
      match answer with
      | .finished r => (next r).points (y.tell r)
      | .waiting .. | .crashed _ => []

def Rest.points (r : Rest) (x : Exchange σ ℓ) : List (Polled × Observer σ) :=
  match r with
  | .ready p => p.points x
  | .within w next =>
    let (answer, y) := w.poll x
    (answer, y.observer) ::
      match answer with
      | .finished r => (next r).points (y.tell r)
      | .waiting .. | .crashed _ => []

def Rest.coursePoints : List (Interlude σ ℓ) → Rest → Exchange σ ℓ → List (Polled × Observer σ)
  | [], r, x => r.points x
  | i :: waits, r, x =>
    r.points x ++
      match r.poll x with
      | (.waiting _ rest, y) => coursePoints waits (rest.after i) (i.pass y)
      | _ => []

end

variable [Log ℓ] [Log ℓ'] (hℓ : Log.Returns ℓ) (hℓ' : Log.Returns ℓ')
include hℓ hℓ'

theorem Program.twins_run (h : x.Twin y) (p : Program) (woken : Bool) :
    Twins (p.run woken x) (p.run woken y) := by
  induction p generalizing woken x y with
  | done | crash => exact ⟨rfl, h⟩
  | step c next ih =>
    obtain ⟨answer, x', y', hx, hy, htwin⟩ := (Work.twins_pollCommand hℓ hℓ' h c).split
    rw [run, run, hx, hy]
    cases answer with
    | finished r => exact ih r (htwin.tell r) _
    | waiting | crashed => exact ⟨rfl, htwin⟩

theorem Rest.twins_poll (h : x.Twin y) (r : Rest) : Twins (r.poll x) (r.poll y) := by
  cases r with
  | ready p => exact p.twins_run hℓ hℓ' h false
  | within w next =>
    obtain ⟨answer, x', y', hx, hy, htwin⟩ := (Work.twins_poll hℓ hℓ' h w).split
    rw [poll, poll, hx, hy]
    cases answer with
    | finished r => exact (next r).twins_run hℓ hℓ' (htwin.tell r) _
    | waiting | crashed => exact ⟨rfl, htwin⟩

theorem Program.points_twin (h : x.Twin y) (p : Program) : p.points y = p.points x := by
  induction p generalizing x y with
  | done | crash => rfl
  | step c next ih =>
    obtain ⟨answer, x', y', hx, hy, htwin⟩ := (Work.twins_pollCommand hℓ hℓ' h c).split
    simp only [points, hx, hy, htwin.observer]
    cases answer with
    | finished r => exact congrArg (_ :: ·) (ih r (htwin.tell r))
    | waiting | crashed => rfl

theorem Rest.points_twin (h : x.Twin y) (r : Rest) : r.points y = r.points x := by
  cases r with
  | ready p => exact p.points_twin hℓ hℓ' h
  | within w next =>
    obtain ⟨answer, x', y', hx, hy, htwin⟩ := (Work.twins_poll hℓ hℓ' h w).split
    simp only [points, hx, hy, htwin.observer]
    cases answer with
    | finished r => exact congrArg (_ :: ·) ((next r).points_twin hℓ hℓ' (htwin.tell r))
    | waiting | crashed => rfl

theorem Rest.coursePoints_twin {waits : List (Interlude σ ℓ)} {waits' : List (Interlude σ ℓ')}
    (hwaits : List.Forall₂ Interlude.Twin waits waits') (h : x.Twin y) (r : Rest) :
    r.coursePoints waits' y = r.coursePoints waits x := by
  induction hwaits generalizing r x y with
  | nil => exact r.points_twin hℓ hℓ' h
  | cons hij _ ih =>
    obtain ⟨stop, x', y', hx, hy, htwin⟩ := (r.twins_poll hℓ hℓ' h).split
    rw [coursePoints, coursePoints, hx, hy, r.points_twin hℓ hℓ' h]
    cases stop with
    | waiting again rest =>
      simp only
      rw [hij.after, ih (hij.pass htwin)]
    | returned | crashed => rfl

theorem Rest.twins_course {waits : List (Interlude σ ℓ)} {waits' : List (Interlude σ ℓ')}
    (hwaits : List.Forall₂ Interlude.Twin waits waits') (h : x.Twin y) (r : Rest) :
    Twins ((r.course waits x).stop, (r.course waits x).exchange)
      ((r.course waits' y).stop, (r.course waits' y).exchange) := by
  induction hwaits generalizing r x y with
  | nil => exact r.twins_poll hℓ hℓ' h
  | cons hij _ ih =>
    obtain ⟨stop, x', y', hx, hy, htwin⟩ := (r.twins_poll hℓ hℓ' h).split
    rw [course, course, hx, hy]
    cases stop with
    | waiting again rest =>
      simp only
      rw [hij.after]
      exact ih (hij.pass htwin) _
    | returned | crashed => exact ⟨rfl, htwin⟩

theorem End.twins_leave (h : x.Twin y) (e : End) : Twins (e.leave x) (e.leave y) := by
  have hstatus : y.closing.status = x.closing.status := congrArg (·.tally.code) h.observer
  have hbytes : y.closing.bytes = x.closing.bytes := congrArg (·.tally.sent) h.observer
  obtain ⟨crash, x', y', hx, hy, htwin⟩ := (h.record hℓ hℓ' hstatus hbytes).split
  have hreleased :
    ∀ crashed, Exchange.Twin { x' with observer := Transport.release crashed x'.observer }
      { y' with observer := Transport.release crashed y'.observer } := fun crashed =>
    ⟨congrArg (Transport.release crashed) htwin.observer, htwin.replies, htwin.raw, htwin.notices⟩
  rw [leave, leave, Exchange.finish, Exchange.finish, hx, hy]
  cases crash <;> exact ⟨rfl, hreleased _⟩

end AccessTrail
