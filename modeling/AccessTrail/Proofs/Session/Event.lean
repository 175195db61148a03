import AccessTrail.Session
import AccessTrail.Proofs.Handler.Course

namespace AccessTrail

variable {ℓ : Type}

/-- Steps of a client, which asks for the head and the body and at last drops what it holds; of the
task; of a handler that gives up what it waits for and goes on otherwise; and of others who use the
log meanwhile. -/
inductive Event (ℓ : Type)
  | head
  | body
  | drop
  | poll
  | turn : Program → Event ℓ
  | elsewhere : (ℓ → ℓ) → (Clock → Clock) → Event ℓ

def Event.journaled : Event ℓ → Event (Journal ℓ)
  | head => .head
  | body => .body
  | drop => .drop
  | poll => .poll
  | turn p => .turn p
  | elsewhere log now => .elsewhere (.lift log) now

namespace Session

def turn (p : Program) (s : Session ℓ) : Session ℓ :=
  match s.task with
  | .running _ => { s with task := .running (.ready p) }
  | _ => s

def elsewhere (log : ℓ → ℓ) (now : Clock → Clock) (s : Session ℓ) : Session ℓ :=
  let i : Interlude Streamed ℓ := { log, now }
  { s with exchange := i.pass s.exchange }

theorem spawn_exchange (s : Session ℓ) : s.spawn.exchange = s.exchange := by
  unfold spawn
  split <;> rfl

theorem spawn_of_spawned {s : Session ℓ} (h : s.task ≠ .unspawned) : s.spawn = s := by
  unfold spawn
  split
  next ht _ => exact absurd ht h
  next => rfl

theorem spawn_of_unspawned {s : Session ℓ} (h : s.task = .unspawned)
    (hr : s.stream.reader = .awaiting) : s.spawn = { s with task := .queued } := by
  rw [spawn, h, hr]

variable [Log ℓ]

def react (s : Session ℓ) : Event ℓ → Session ℓ
  | .head => s.takeHead.2
  | .body => s.takeBody.2
  | .drop => s.drop
  | .poll => s.pollTask.2
  | .turn p => s.turn p
  | .elsewhere log now => s.elsewhere log now

def run (s : Session ℓ) (es : List (Event ℓ)) : Session ℓ := es.foldl react s

theorem run_append (s : Session ℓ) (es es' : List (Event ℓ)) :
    s.run (es ++ es') = (s.run es).run es' :=
  List.foldl_append

theorem run_poll (s : Session ℓ) (before : List (Event ℓ)) :
    s.run (before ++ [.poll]) = (s.run before).pollTask.2 := run_append s before [.poll]

theorem tick_eq_run (n : Nat) (s : Session ℓ) :
    ∃ k, s.tick n = s.run (List.replicate k .poll) := by
  induction n generalizing s with
  | zero => exact ⟨0, rfl⟩
  | succ n ih =>
    rw [tick]
    split
    next s' h =>
      obtain ⟨k, hk⟩ := ih s'
      refine ⟨k + 1, ?_⟩
      rw [hk, List.replicate_succ, run, run, List.foldl_cons, react, h]
    next s' h => exact ⟨1, (congrArg Prod.snd h).symm⟩

end Session

end AccessTrail
