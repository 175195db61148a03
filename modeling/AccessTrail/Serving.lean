import AccessTrail.Handler.Run

namespace AccessTrail

inductive End
  | returned
  | cancelled
  | crashed : (message : String) → End
  deriving DecidableEq

def End.isCrash : End → Bool
  | crashed _ => true
  | returned | cancelled => false

variable {σ ℓ : Type}

def Exchange.enter (r : Http.Request) (s : σ) (log : ℓ) (now : Clock) : Exchange σ ℓ where
  observer := { inner := s, visit := r.visit }
  log := log
  now := now

variable [Transport σ] [Log ℓ]

def End.leave (e : End) (x : Exchange σ ℓ) : End × Exchange σ ℓ :=
  match x.finish e.isCrash with
  | (none, x) => (e, x)
  | (some message, x) => (.crashed message, x)

def serve (n : Nat) (p : Program) (x : Exchange σ ℓ) : End × Exchange σ ℓ :=
  match (Rest.ready p).pollOn n x with
  | (.returned, x) => End.returned.leave x
  | (.crashed message, x) => (End.crashed message).leave x
  | (.waiting .., x) => End.cancelled.leave x

end AccessTrail
