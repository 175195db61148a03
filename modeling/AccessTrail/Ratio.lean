import AccessTrail.Number.Decimal

namespace AccessTrail.Ratio

def none : String := "-"

/-- Both counts and their quotient are rounded to binary64 before the two places are taken. -/
def quotientHundredths (produced sent : Nat) : Nat :=
  Number.hundredths ((Number.Binary64.ofNat produced).div (Number.Binary64.ofNat sent))

def text (produced sent : Nat) : String :=
  if sent = 0 ∨ produced = 0 ∨ produced = sent then none
  else
    match quotientHundredths produced sent with
    | 0 => none
    | h => String.ofList (Number.twoPlaces h)

end AccessTrail.Ratio
