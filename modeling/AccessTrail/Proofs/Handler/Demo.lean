import AccessTrail.Handler.Demo
import AccessTrail.Proofs.Handler.Failure
import AccessTrail.Proofs.Handler.Nested
import AccessTrail.Proofs.Transport.Granted

namespace AccessTrail

open Transport (Grants)

variable {σ ℓ : Type} [Transport σ]

theorem Observer.write_granted {bs : Bytes} {o : Observer σ}
    (h : (Operation.write bs).Granted ((Operation.write bs).on o.inner).1) :
    Transport.write bs o = (.done (.ok bs.length), { o with
      inner := (Transport.write bs o.inner).2
      tally :=
        o.tally.begin.count bs.length (Transport.onWire (Transport.write bs o.inner).2) }) := by
  have hinner := Transport.write_of_granted h
  generalize (Transport.write bs o.inner).2 = s at hinner ⊢
  change Observer.write bs o = _
  rw [Observer.write, hinner]

theorem Work.writeAll_granted [Log ℓ] {bs : Bytes} (hbs : bs ≠ []) {x : Exchange σ ℓ}
    (h : (Operation.write bs).Granted ((Operation.write bs).on x.observer.inner).1) :
    pollCommand (.writeAll bs) x = (.finished .done, setObserver { x.observer with
      inner := (Transport.write bs x.observer.inner).2
      tally := x.observer.tally.begin.count bs.length
        (Transport.onWire (Transport.write bs x.observer.inner).2) } x) := by
  have hwrite := Observer.write_granted h
  have hsent := Transport.sendAll_of_granted (s := x.observer) hbs
    (congrArg Answer.wrote (congrArg Prod.fst hwrite))
  rw [pollCommand, hsent, hwrite]
  rfl

theorem Program.run_finished [Log ℓ] {c : Command} {next : Reply → Program} {woken : Bool}
    {x y : Exchange σ ℓ} {r : Reply} (h : Work.pollCommand c x = (.finished r, y)) :
    (Program.step c next).run woken x = (next r).run (woken || r.wakes) (y.tell r) := by
  rw [run, h]

namespace Exchange

theorem replyBody_ne_nil {f : Failure} {part : Bytes} (h : part ∈ replyBody f) : part ≠ [] := by
  rcases List.mem_pair.1 h with rfl | rfl
  · rw [Text.quote, Text.quoteBytes, Utf8.encode, List.flatMap_cons]
    exact List.append_ne_nil_of_left_ne_nil (by decide) _
  · exact List.cons_ne_nil _ _

def replying (status : Http.Status) (f : Failure) : List Operation :=
  .edit plainText :: .sendHead status :: ((replyBody f).map .write ++ [.flush])

end Exchange

namespace Work

theorem pollReply_granted {parts : List Bytes} (hparts : ∀ part ∈ parts, part ≠ [])
    {x : Exchange σ ℓ} (h : Grants (parts.map .write ++ [.flush]) x.observer.inner) :
    (pollReply parts x).1 = .finished .done ∧
      (pollReply parts x).2.observer.inner =
        (Operation.run (parts.map .write ++ [.flush]) x.observer.inner).2 := by
  induction parts generalizing x with
  | nil =>
    have hflush := Transport.flush_of_granted h.1
    rw [pollReply, hflush]
    exact ⟨rfl, rfl⟩
  | cons part parts ih =>
    have hsent := Transport.sendAll_of_granted (hparts part List.mem_cons_self) h.1
    rw [pollReply_of_sent hsent]
    exact ih (fun p hp => hparts p (List.mem_cons_of_mem _ hp)) h.2

theorem fail_granted [Log ℓ] {status : Http.Status} {f : Failure} {x : Exchange σ ℓ}
    (h : x.Replies status f) (hgrants : Grants (Exchange.replying status f) x.observer.inner) :
    (fail status f x).1 = .finished .done ∧
      (fail status f x).2.observer.inner =
        (Operation.run (Exchange.replying status f) x.observer.inner).2 := by
  obtain ⟨y, hinner, hy⟩ := fail_of_replies h
  rw [← hinner] at hgrants ⊢
  rw [hy]
  exact pollReply_granted (fun _ => Exchange.replyBody_ne_nil) hgrants.2.2

end Work

namespace Demo

inductive Outcome
  | greeted
  | switched : (protocol : Bytes) → Outcome
  | told : Problem → Outcome

namespace Outcome

def operations : Outcome → List Operation
  | greeted =>
    [.edit (·.set "content-type" (Utf8.ofString "text/plain; charset=utf-8")), .write greeting]
  | switched protocol => [.handOver, .edit (switchHeaders protocol), .sendHead .switchingProtocols]
  | told p => Exchange.replying p.status ⟨p.text, []⟩

def status : Outcome → Http.Status
  | greeted => .ok
  | switched _ => .switchingProtocols
  | told p => p.status

def early? : Outcome → Option Entry
  | greeted | switched _ => none
  | told p => some (Exchange.failing p.status ⟨p.text, []⟩)

def entry (elapsed : Duration) : Outcome → Entry
  | greeted => { status := 200, elapsed, bytes := UInt64.ofNat greeting.length }
  | switched _ => { status := 101, elapsed }
  | told p => Exchange.failing p.status ⟨p.text, []⟩

end Outcome

inductive Comes (q : Http.Request) (hands : Bool) : Outcome → Prop
  | greeted : q.uri.path = ['/'] → q.method = .get → Comes q hands .greeted
  | switched {protocol} : q.uri.path = "/echo".toList → q.method = .get →
    q.headers.get? "upgrade" = some protocol → hands = true → Comes q hands (.switched protocol)
  | refused {protocol} : q.uri.path = "/echo".toList → q.method = .get →
    q.headers.get? "upgrade" = some protocol → hands = false →
      Comes q hands (.told (.refused .notSupported))
  | upgradeMissing : q.uri.path = "/echo".toList → q.method = .get →
      q.headers.get? "upgrade" = none →
    Comes q hands (.told .upgradeMissing)
  | methodNotAllowed : q.uri.path = ['/'] ∨ q.uri.path = "/echo".toList → q.method ≠ .get →
    Comes q hands (.told (.methodNotAllowed q.method))
  | noRoute : q.uri.path ≠ ['/'] → q.uri.path ≠ "/echo".toList →
    Comes q hands (.told (.noRoute (String.ofList q.uri.path)))

theorem exists_comes (q : Http.Request) (hands : Bool) : ∃ o, Comes q hands o := by
  by_cases hroot : q.uri.path = ['/']
  · by_cases hget : q.method = .get
    · exact ⟨_, .greeted hroot hget⟩
    · exact ⟨_, .methodNotAllowed (.inl hroot) hget⟩
  by_cases hecho : q.uri.path = "/echo".toList
  · by_cases hget : q.method = .get
    · cases hupgrade : q.headers.get? "upgrade" with
      | none => exact ⟨_, .upgradeMissing hecho hget hupgrade⟩
      | some protocol =>
        cases hands with
        | true => exact ⟨_, .switched hecho hget hupgrade rfl⟩
        | false => exact ⟨_, .refused hecho hget hupgrade rfl⟩
    · exact ⟨_, .methodNotAllowed (.inr hecho) hget⟩
  · exact ⟨_, .noRoute hroot hecho⟩

structure Serves (o : Outcome) (v : Http.Visit) (s : σ) (polled : Stop × Exchange σ (Journal ℓ)) :
    Prop where
  returned : polled.1 = .returned
  inner : polled.2.observer.inner = (Operation.run o.operations s).2
  books : Accounted v o.early? polled.2
  closing : o.early? = none → polled.2.closing = o.entry polled.2.now.elapsed

variable [Log ℓ] {q : Http.Request} {v : Http.Visit} {x : Exchange σ (Journal ℓ)}

theorem serves_greet (hwire : ∀ s : σ, Transport.onWire s = none) (hx : Accounted v none x)
    (htally : x.observer.tally = {})
    (hgrants : Grants Outcome.greeted.operations x.observer.inner) :
    Serves .greeted v x.observer.inner ((Rest.ready greet).poll x) := by
  let n := UInt64.ofNat greeting.length
  let t : Tally := { status := some .ok, produced := n, sent := n }
  let change : Http.Headers → Http.Headers :=
    (·.set "content-type" (Utf8.ofString "text/plain; charset=utf-8"))
  let y := (Work.setObserver (Transport.editHeaders change x.observer) x).tell .done
  have hcount : y.observer.tally.begin.count greeting.length none = t := by
    rw [show y.observer.tally = {} from htally]
    exact congrArg (fun m => { status := some .ok, produced := m, sent := m : Tally })
      (UInt64.zero_add n)
  have hpoll : (Rest.ready greet).poll x = (.returned, (Work.setObserver
      { x.observer with
        inner := (Operation.run Outcome.greeted.operations x.observer.inner).2
        tally := t } y).tell .done) := by
    have hwritten := Work.writeAll_granted (by decide) (x := y) hgrants.2.1
    rw [hwire, hcount] at hwritten
    rw [Rest.poll, greet, Program.run_finished rfl, Program.run_finished hwritten]
    rfl
  have hratio : t.ratio = "-" := by
    rw [Tally.ratio, Ratio.text, if_pos (.inr (.inr rfl))]
    rfl
  rw [hpoll]
  refine ⟨rfl, rfl, ⟨hx.visit, hx.logged, hx.asked⟩, fun _ => ?_⟩
  exact congrArg
    (fun ratio => { status := 200, elapsed := x.now.elapsed, bytes := n, ratio : Entry }) hratio

theorem serves_report (hlog : Log.Returns ℓ) (p : Problem) (hx : Accounted v none x)
    (htally : x.observer.tally = {})
    (hgrants : Grants (Outcome.told p).operations x.observer.inner) :
    Serves (.told p) v x.observer.inner ((Rest.ready p.report).poll x) := by
  have hreplies : x.Replies p.status ⟨p.text, []⟩ :=
    ⟨congrArg Tally.sent htally, Exchange.record_returns (Journal.returns hlog) _ x⟩
  obtain ⟨hfinished, hinner⟩ := Work.fail_granted hreplies hgrants
  have hbooks : Accounted v (some (Exchange.failing p.status ⟨p.text, []⟩))
      (Work.fail p.status ⟨p.text, []⟩ x).2 :=
    Work.accounted_pollCommand hx (.fail p.status ⟨p.text, []⟩)
  have hpoll : (Rest.ready p.report).poll x =
      (.returned, (Work.fail p.status ⟨p.text, []⟩ x).2.tell .done) := by
    rw [Rest.poll, Problem.report, Program.run, Work.pollCommand]
    rcases hfail : Work.fail p.status ⟨p.text, []⟩ x with ⟨answer, y⟩
    rw [hfail] at hfinished
    subst hfinished
    rfl
  rw [hpoll]
  exact ⟨rfl, hinner, hbooks.tell .done, fun hnone => by cases hnone⟩

theorem run_echoOn (c : Http.Handover) (woken : Bool) (x : Exchange σ (Journal ℓ)) :
    let polled := (echoOn c).run woken x
    polled.1 = .returned ∧ polled.2.observer = x.observer ∧ polled.2.log = x.log ∧
      polled.2.now = x.now := by
  cases c <;> exact ⟨rfl, rfl, rfl, rfl⟩

theorem serves_echo {protocol : Bytes} (hx : Accounted v none x) (htally : x.observer.tally = {})
    (hgrants : Grants (Outcome.switched protocol).operations x.observer.inner) :
    Serves (.switched protocol) v x.observer.inner ((Rest.ready (echo protocol)).poll x) := by
  obtain ⟨c, hc⟩ := Transport.handOver_of_granted hgrants.1
  have htaken : Transport.handOver x.observer = some (.ok c, { x.observer with
      inner := (Operation.handOver.on x.observer.inner).2 }) := by
    change (Transport.handOver x.observer.inner).map _ = _
    rw [hc]
    rfl
  let taken :=
    Work.setObserver { x.observer with inner := (Operation.handOver.on x.observer.inner).2 } x
  have hover : Work.pollCommand .handOver x = (.finished (.handedOver c), taken) := by
    rw [Work.pollCommand, htaken]
  let edited := Work.setObserver (Transport.editHeaders (switchHeaders protocol) taken.observer)
    (taken.tell (.handedOver c))
  let y := (Work.pollCommand (.sendHead .switchingProtocols) (edited.tell .done)).2.tell .done
  have hpoll : (Rest.ready (echo protocol)).poll x = (echoOn c).run false y := by
    rw [Rest.poll, echo, Program.run_finished hover]
    rfl
  obtain ⟨hreturned, hobserver, hlog, hnow⟩ := run_echoOn c false y
  have htold : y.observer.tally = { status := some .switchingProtocols } :=
    congrArg (fun t : Tally => { t with status := some .switchingProtocols }) htally
  rw [hpoll]
  refine ⟨hreturned, congrArg Observer.inner hobserver, ⟨?_, ?_, ?_⟩, fun _ => ?_⟩
  · rw [hobserver]
    exact hx.visit
  · rw [hobserver]
    exact hx.logged
  · rw [hlog]
    exact hx.asked
  · rw [Exchange.closing, hobserver, htold]
    rfl

theorem serves_refused (hlog : Log.Returns ℓ) {protocol : Bytes} (hx : Accounted v none x)
    (htally : x.observer.tally = {}) (hnone : Transport.handOver x.observer.inner = none)
    (hgrants : Grants (Outcome.told (.refused .notSupported)).operations x.observer.inner) :
    Serves (.told (.refused .notSupported)) v x.observer.inner
      ((Rest.ready (echo protocol)).poll x) := by
  have hrefused : Work.pollCommand .handOver x = (.finished (.refused .notSupported), x) := by
    have hobserver : Transport.handOver x.observer = none := congrArg (Option.map _) hnone
    rw [Work.pollCommand, hobserver]
  have hpoll : (Rest.ready (echo protocol)).poll x =
      (Rest.ready (Problem.refused .notSupported).report).poll
        (x.tell (.refused .notSupported)) := by
    rw [Rest.poll, echo, Program.run_finished hrefused]
    rfl
  rw [hpoll]
  exact serves_report (x := x.tell (.refused .notSupported)) hlog _ (hx.tell _) htally hgrants

theorem serves {o : Outcome} {hands : Bool} (hlog : Log.Returns ℓ)
    (hwire : ∀ s : σ, Transport.onWire s = none) (hcomes : Comes q hands o)
    (hhands : (Transport.handOver x.observer.inner).isSome = hands) (hx : Accounted v none x)
    (htally : x.observer.tally = {}) (hgrants : Grants o.operations x.observer.inner) :
    Serves o v x.observer.inner ((Rest.ready (handler q)).poll x) := by
  cases hcomes with
  | greeted hpath hget =>
    have hp : handler q = greet := by simp [handler, hpath, hget]
    rw [hp]
    exact serves_greet hwire hx htally hgrants
  | @switched protocol hpath hget hupgrade hyes =>
    have hp : handler q = echo protocol := by simp [handler, hpath, hget, hupgrade]
    rw [hp]
    exact serves_echo hx htally hgrants
  | @refused protocol hpath hget hupgrade hno =>
    have hp : handler q = echo protocol := by simp [handler, hpath, hget, hupgrade]
    rw [hp]
    exact serves_refused hlog hx htally (by simpa using hhands.trans hno) hgrants
  | upgradeMissing hpath hget hupgrade =>
    have hp : handler q = Problem.upgradeMissing.report := by simp [handler, hpath, hget, hupgrade]
    rw [hp]
    exact serves_report hlog _ hx htally hgrants
  | methodNotAllowed hpath hget =>
    have hp : handler q = (Problem.methodNotAllowed q.method).report := by
      rcases hpath with hpath | hpath <;> simp [handler, hpath, hget]
    rw [hp]
    exact serves_report hlog _ hx htally hgrants
  | noRoute hnotRoot hnotEcho =>
    have hp : handler q = (Problem.noRoute (String.ofList q.uri.path)).report := by
      simp only [handler, if_neg hnotRoot, if_neg hnotEcho]
    rw [hp]
    exact serves_report hlog _ hx htally hgrants

/-- What a request is answered, going by its method, its path and whether an upgrade is wished for
and can be had. -/
structure Answers (q : Http.Request) (hands : Bool) (status : Http.Status) : Prop where
  ok : status = .ok ↔ q.method = .get ∧ q.uri.path = ['/']
  switchingProtocols : status = .switchingProtocols ↔
    q.method = .get ∧ q.uri.path = "/echo".toList ∧ q.headers.get? "upgrade" ≠ none ∧ hands = true
  notImplemented : status = .notImplemented ↔
    q.method = .get ∧ q.uri.path = "/echo".toList ∧ q.headers.get? "upgrade" ≠ none ∧ hands = false
  upgradeRequired : status = .upgradeRequired ↔
    q.method = .get ∧ q.uri.path = "/echo".toList ∧ q.headers.get? "upgrade" = none
  methodNotAllowed : status = .methodNotAllowed ↔
    q.method ≠ .get ∧ (q.uri.path = ['/'] ∨ q.uri.path = "/echo".toList)
  notFound : status = .notFound ↔ q.uri.path ≠ ['/'] ∧ q.uri.path ≠ "/echo".toList

structure Accounts (r : Http.Response) (e : Entry) : Prop where
  status : e.status.toNat = r.status.code
  greeted : r.status = .ok → r.body = greeting
  served : r.status = .ok ∨ r.status = .switchingProtocols →
    e.message = "" ∧ e.bytes.toNat = r.body.length
  failed : r.status ≠ .ok → r.status ≠ .switchingProtocols →
    e.elapsed = {} ∧ e.bytes = 0 ∧ e.ratio = "-" ∧
      r.body = Utf8.encode (Text.quote e.message ++ ['\n'])

omit [Log ℓ] in
theorem Comes.answers {o : Outcome} {hands : Bool} (h : Comes q hands o) :
    Answers q hands o.status := by
  cases h with
  | greeted hpath hget => constructor <;> simp +decide [hpath, hget]
  | switched hpath hget hupgrade hyes =>
    constructor <;> simp +decide [Outcome.status, hpath, hget, hupgrade, hyes]
  | refused hpath hget hupgrade hno => constructor <;> simp +decide [hpath, hget, hupgrade, hno]
  | upgradeMissing hpath hget hupgrade => constructor <;> simp +decide [hpath, hget, hupgrade]
  | methodNotAllowed hpath hget =>
    rcases hpath with hpath | hpath <;> constructor <;>
      simp +decide [Outcome.status, Problem.status, hpath, hget]
  | noRoute hroot hecho =>
    have hecho : q.uri.path ≠ ['/', 'e', 'c', 'h', 'o'] := hecho
    constructor <;> simp +decide [Outcome.status, Problem.status, hroot, hecho]

omit [Log ℓ] in
theorem Problem.status_ne (p : Problem) : p.status ≠ .ok ∧ p.status ≠ .switchingProtocols := by
  cases p <;> rw [status] <;> decide

omit [Log ℓ] in
theorem Outcome.accounts (o : Outcome) {r : Http.Response} (hstatus : r.status = o.status)
    (hbody : r.body = Operation.written o.operations) (elapsed : Duration) :
    Accounts r (o.entry elapsed) := by
  cases o with
  | greeted =>
    have hgreeting : r.body = greeting := hbody.trans (List.append_nil greeting)
    refine ⟨?_, fun _ => hgreeting, fun _ => ⟨rfl, ?_⟩, fun hok => absurd hstatus hok⟩
    · rw [hstatus]
      rfl
    · rw [hgreeting]
      rfl
  | switched protocol =>
    have hnot : r.status ≠ .ok := by
      rw [hstatus, status]
      decide
    refine ⟨?_, fun hok => absurd hok hnot, fun _ => ⟨rfl, ?_⟩,
      fun _ hswitching => absurd hstatus hswitching⟩
    · rw [hstatus]
      rfl
    · rw [hbody]
      rfl
  | told p =>
    obtain ⟨hok, hswitching⟩ := p.status_ne
    have hstatus : r.status = p.status := hstatus
    rw [← hstatus] at hok hswitching
    refine ⟨?_, fun h => absurd h hok, fun h => absurd h (not_or.2 ⟨hok, hswitching⟩),
      fun _ _ => ⟨rfl, rfl, rfl, ?_⟩⟩
    · rw [hstatus]
      exact UInt16.toNat_ofNat_of_lt' (lt_trans p.status.high (by decide))
    · rw [hbody, Utf8.encode, List.flatMap_append]
      exact congrArg (Utf8.encode (Text.quote p.text) ++ ·) (List.append_nil _)

end Demo

end AccessTrail
