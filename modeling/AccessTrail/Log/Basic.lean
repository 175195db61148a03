import AccessTrail.Fault
import AccessTrail.Text.Utf8

namespace AccessTrail

inductive Appended
  | kept
  | failed : Fault → Appended
  | crashed : (message : String) → Appended
  deriving DecidableEq

class Log (ℓ : Type) where
  append : Bytes → ℓ → Appended × ℓ
  stored : ℓ → Bytes

structure BrokenLog where
  reason : String
  deriving DecidableEq

instance : Log BrokenLog where
  append _ l := (.failed (.custom .other l.reason), l)
  stored _ := []

end AccessTrail
