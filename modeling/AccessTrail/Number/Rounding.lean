namespace AccessTrail.Number

/-- A half goes to the even neighbour. -/
def roundQuotient (num den : Nat) : Nat :=
  let q := num / den
  let r := num % den
  if 2 * r < den then q
  else if den < 2 * r then q + 1
  else if q % 2 = 0 then q else q + 1

structure Binary64 where
  mantissa : Nat
  exponent : Int
  deriving DecidableEq

def shifted (num den : Nat) (shift : Int) : Nat × Nat :=
  if 0 ≤ shift then (num * Nat.pow 2 shift.toNat, den) else (num, den * Nat.pow 2 (-shift).toNat)

namespace Binary64

def zero : Binary64 := ⟨0, 0⟩

def exponentOf (num den : Nat) : Int :=
  let guess : Int := (num.log2 : Int) - den.log2 - 52
  let (n, d) := shifted num den (-guess)
  max (-1074) (if n / d < Nat.pow 2 52 then guess - 1 else guess)

def ofQuotient (num den : Nat) : Binary64 :=
  if num = 0 then zero
  else
    let e := exponentOf num den
    let (n, d) := shifted num den (-e)
    let m := roundQuotient n d
    if m = Nat.pow 2 53 then ⟨Nat.pow 2 52, e + 1⟩ else ⟨m, e⟩

def ofNat (n : Nat) : Binary64 := ofQuotient n 1

def fraction (v : Binary64) : Nat × Nat := shifted v.mantissa 1 v.exponent

def div (a b : Binary64) : Binary64 :=
  let (n, d) := shifted a.mantissa b.mantissa (a.exponent - b.exponent)
  ofQuotient n d

def isFinite (v : Binary64) : Bool :=
  let (n, d) := v.fraction
  n < d * Nat.pow 2 1024

end Binary64

end AccessTrail.Number
