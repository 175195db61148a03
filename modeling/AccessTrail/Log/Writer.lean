import AccessTrail.Log.Basic

/-!
A log over a writer that may store only part of what it is offered. A record is written until all of
it is stored; interruptions are ridden out, and any other fault gives the record up where it stands.
A crash poisons the writer, which is used on nevertheless.
-/

namespace AccessTrail

inductive StoreAnswer
  | take : (limit : Option Nat) → StoreAnswer
  | fail : Fault → StoreAnswer
  | crash : (limit : Option Nat) → StoreAnswer
  deriving DecidableEq

structure WriterLog where
  answers : List StoreAnswer := []
  flushes : List (Option Fault) := []
  bytes : Bytes := []
  poisoned : Bool := false
  deriving DecidableEq

namespace WriterLog

def shortOf (limit : Option Nat) (bs : Bytes) : Bytes := bs.take (limit.getD bs.length)

def crashReason : String := "writer panicked"

/-- A writer that stores nothing would never come to an end. -/
def nothingStored : Fault := .fixed .writeZero "failed to write whole buffer"

def store : List StoreAnswer → Bytes → Appended × List StoreAnswer × Bytes
  | answers, [] => (.kept, answers, [])
  | [], bs => (.kept, [], bs)
  | .take limit :: answers, bs =>
    match shortOf limit bs with
    | [] => (.failed nothingStored, answers, [])
    | b :: taken =>
      let r := store answers (bs.drop (taken.length + 1))
      (r.1, r.2.1, b :: taken ++ r.2.2)
  | .fail f :: answers, bs =>
    if f.kind = .interrupted then store answers bs else (.failed f, answers, [])
  | .crash limit :: answers, bs => (.crashed crashReason, answers, shortOf limit bs)

def lock (l : WriterLog) : Except WriterLog WriterLog := if l.poisoned then .error l else .ok l

def hold (l : WriterLog) : WriterLog :=
  match l.lock with
  | .ok l | .error l => l

def append (record : Bytes) (l : WriterLog) : Appended × WriterLog :=
  let l := l.hold
  let (outcome, answers, stored) := store l.answers record
  let l := { l with answers, bytes := l.bytes ++ stored }
  match outcome, l.flushes with
  | .kept, some f :: flushes => (.failed f, { l with flushes })
  | .kept, none :: flushes => (.kept, { l with flushes })
  | .crashed message, _ => (.crashed message, { l with poisoned := true })
  | outcome, _ => (outcome, l)

instance : Log WriterLog where
  append := WriterLog.append
  stored := WriterLog.bytes

end WriterLog

end AccessTrail
