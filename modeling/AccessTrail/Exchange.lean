import AccessTrail.Log.Basic
import AccessTrail.Observer
import AccessTrail.Record

namespace AccessTrail

structure Clock where
  stamp : String
  elapsed : Duration := {}
  deriving DecidableEq

inductive Reply
  | done
  | wrote : Nat → Reply
  | notReady : (again : Bool) → Reply
  | failed : Fault → Reply
  | refused : Refusal → Reply
  | handedOver : Http.Handover → Reply
  | offered : Bool → Reply
  | headers : Http.Headers → Reply
  | tally : Tally → (logged : Bool) → Reply
  deriving DecidableEq

def Reply.wakes : Reply → Bool
  | notReady again => again
  | _ => false

structure Exchange (σ ℓ : Type) where
  observer : Observer σ
  log : ℓ
  now : Clock
  notices : List Notice := []
  replies : List Reply := []
  raw : Bytes := []

namespace Exchange

variable {σ ℓ : Type}

def note (n : Notice) (x : Exchange σ ℓ) : Exchange σ ℓ := { x with notices := x.notices ++ [n] }

def tell (r : Reply) (x : Exchange σ ℓ) : Exchange σ ℓ := { x with replies := x.replies ++ [r] }

def setStatus (status : Http.Status) (x : Exchange σ ℓ) : Exchange σ ℓ :=
  { x with observer.tally.status := some status }

def setInner (s : σ) (x : Exchange σ ℓ) : Exchange σ ℓ := { x with observer.inner := s }

def line (e : Entry) (x : Exchange σ ℓ) : Record := ⟨x.now.stamp, x.observer.visit, e⟩

def record [Log ℓ] (e : Entry) (x : Exchange σ ℓ) : Option String × Exchange σ ℓ :=
  if x.observer.logged then (none, x)
  else
    let visit := x.observer.visit
    let y := { x with observer.logged := true }.note
      (.recorded visit.method visit.uri e.status e.bytes)
    match Log.append (x.line e).bytes x.log with
    | (.kept, log) => (none, { y with log })
    | (.failed f, log) => (none, { y with log }.note (.recordLost f.text))
    | (.crashed message, log) => (some message, { y with log })

def closing (x : Exchange σ ℓ) : Entry where
  status := x.observer.tally.code
  elapsed := x.now.elapsed
  bytes := x.observer.tally.sent
  ratio := x.observer.tally.ratio

def failing (status : Http.Status) (f : Failure) : Entry where
  status := UInt16.ofNat status.code
  message := f.root

variable [Transport σ]

def plainText (h : Http.Headers) : Http.Headers :=
  ((h.remove "content-length").set "content-type"
    (Utf8.ofString "text/plain; charset=utf-8")).set
      "x-content-type-options" (Utf8.ofString "nosniff")

def replyHead (status : Http.Status) (x : Exchange σ ℓ) : Exchange σ ℓ :=
  let (s, notices) := Transport.sendHead status (Transport.editHeaders plainText x.observer.inner)
  { x.setInner s with notices := x.notices ++ notices }

def replyBody (f : Failure) : List Bytes := [Utf8.encode (Text.quote f.root), [0x0A]]

def finish [Log ℓ] (crashed : Bool) (x : Exchange σ ℓ) : Option String × Exchange σ ℓ :=
  let (crash, x) := x.record x.closing
  (crash, { x with observer := Transport.release (crashed || crash.isSome) x.observer })

end Exchange

end AccessTrail
