import AccessTrail.Handler.Program

namespace AccessTrail

inductive Work
  | command : Command → Work
  | reply : List Bytes → Work
  | yielded

inductive Polled
  | finished : Reply → Polled
  | waiting : (again : Bool) → Work → Polled
  | crashed : (message : String) → Polled

variable {σ ℓ : Type} [Transport σ] [Log ℓ]

namespace Work

def overrunReason : String := "mid > len"

def settled : Except Fault Unit → Reply
  | .ok () => .done
  | .error f => .failed f

def replied (answer : Except Fault Unit) (x : Exchange σ ℓ) : Polled × Exchange σ ℓ :=
  match answer with
  | .ok () => (.finished .done, x)
  | .error f => (.finished .done, x.note (.replyLost f.text))

/-- Sends the parts to the inner transport, so that an error reply is not counted. -/
def pollReply : List Bytes → Exchange σ ℓ → Polled × Exchange σ ℓ
  | [], x =>
    match Transport.flush x.observer.inner with
    | (.done answer, s) => replied answer (x.setInner s)
    | (.waiting again, s) => (.waiting again (.reply []), x.setInner s)
  | part :: parts, x =>
    match Transport.sendAll part x.observer.inner with
    | (.finished (.ok ()), s) => pollReply parts (x.setInner s)
    | (.finished (.error f), s) => replied (.error f) (x.setInner s)
    | (.waiting again rest, s) => (.waiting again (.reply (rest :: parts)), x.setInner s)
    | (.overrun, s) => (.crashed overrunReason, x.setInner s)

/-- The record comes first; the client is told only if nothing has reached it yet. -/
def fail (status : Http.Status) (f : Failure) (x : Exchange σ ℓ) : Polled × Exchange σ ℓ :=
  match x.record (Exchange.failing status f) with
  | (some message, x) => (.crashed message, x)
  | (none, x) =>
    let x := x.setStatus status
    if x.observer.tally.sent = 0 then pollReply (Exchange.replyBody f) (x.replyHead status)
    else (.finished .done, x)

def setObserver (o : Observer σ) (x : Exchange σ ℓ) : Exchange σ ℓ := { x with observer := o }

def attempt (c : Command) (act : Observer σ → Attempt (Except Fault Unit) × Observer σ)
    (x : Exchange σ ℓ) : Polled × Exchange σ ℓ :=
  match act x.observer with
  | (.done answer, o) => (.finished (settled answer), setObserver o x)
  | (.waiting again, o) => (.waiting again (.command c), setObserver o x)

def pollCommand (c : Command) (x : Exchange σ ℓ) : Polled × Exchange σ ℓ :=
  match c with
  | .write bs =>
    match Transport.write bs x.observer with
    | (.done (.ok n), o) => (.finished (.wrote n), setObserver o x)
    | (.done (.error f), o) => (.finished (.failed f), setObserver o x)
    | (.waiting again, o) => (.finished (.notReady again), setObserver o x)
  | .writeAll bs =>
    match Transport.sendAll bs x.observer with
    | (.finished answer, o) => (.finished (settled answer), setObserver o x)
    | (.waiting again rest, o) => (.waiting again (.command (.writeAll rest)), setObserver o x)
    | (.overrun, o) => (.crashed overrunReason, setObserver o x)
  | .flush => attempt .flush Transport.flush x
  | .close => attempt .close Transport.close x
  | .sendHead status =>
    let (o, notices) := Transport.sendHead status x.observer
    (.finished .done, { x with observer := o, notices := x.notices ++ notices })
  | .edit change => (.finished .done, setObserver (Transport.editHeaders change x.observer) x)
  | .record e =>
    match x.record e with
    | (some message, x) => (.crashed message, x)
    | (none, x) => (.finished .done, x)
  | .fail status f => fail status f x
  | .handOver =>
    match Transport.handOver x.observer with
    | none => (.finished (.refused .notSupported), x)
    | some (.error r, o) => (.finished (.refused r), setObserver o x)
    | some (.ok h, o) => (.finished (.handedOver h), setObserver o x)
  | .offers => (.finished (.offered (Transport.handOver x.observer).isSome), x)
  | .sendRaw bs => (.finished .done, { x with raw := x.raw ++ bs })
  | .headers => (.finished (.headers (Transport.headers x.observer)), x)
  | .tally => (.finished (.tally x.observer.tally x.observer.logged), x)
  | .note n => (.finished .done, x.note n)
  | .yield => (.waiting true .yielded, x)
  | .stall => (.waiting false (.command .stall), x)

def poll (w : Work) (x : Exchange σ ℓ) : Polled × Exchange σ ℓ :=
  match w with
  | .command c => pollCommand c x
  | .reply parts => pollReply parts x
  | .yielded => (.finished .done, x)

def pollOn : Nat → Work → Exchange σ ℓ → Polled × Exchange σ ℓ
  | 0, w, x => (.waiting true w, x)
  | n + 1, w, x =>
    match w.poll x with
    | (.waiting true w, x) => pollOn n w x
    | stop => stop

end Work

inductive Rest
  | ready : Program → Rest
  | within : Work → (Reply → Program) → Rest

inductive Stop
  | returned
  | crashed : (message : String) → Stop
  | waiting : (again : Bool) → Rest → Stop

/-- Whoever was woken on the way is polled again, whatever it waits for then. -/
def Program.run (woken : Bool) : Program → Exchange σ ℓ → Stop × Exchange σ ℓ
  | .done, x => (.returned, x)
  | .crash message, x => (.crashed message, x)
  | .step c next, x =>
    match Work.pollCommand c x with
    | (.finished r, x) => (next r).run (woken || r.wakes) (x.tell r)
    | (.waiting again w, x) => (.waiting (again || woken) (.within w next), x)
    | (.crashed message, x) => (.crashed message, x)

def Rest.poll (r : Rest) (x : Exchange σ ℓ) : Stop × Exchange σ ℓ :=
  match r with
  | .ready p => p.run false x
  | .within w next =>
    match w.poll x with
    | (.finished r, x) => (next r).run r.wakes (x.tell r)
    | (.waiting again w, x) => (.waiting again (.within w next), x)
    | (.crashed message, x) => (.crashed message, x)

def Rest.pollOn : Nat → Rest → Exchange σ ℓ → Stop × Exchange σ ℓ
  | 0, r, x => (.waiting true r, x)
  | n + 1, r, x =>
    match r.poll x with
    | (.waiting true r, x) => r.pollOn n x
    | stop => stop

end AccessTrail
