import AccessTrail.Number.Rounding

namespace AccessTrail.Number

def digitChars (n : Nat) : List Char := Nat.toDigits 10 n

def hundredths (v : Binary64) : Nat :=
  let (n, d) := v.fraction
  roundQuotient (n * 100) d

def twoPlaces (h : Nat) : List Char :=
  digitChars (h / 100) ++
    ['.', Nat.digitChar (h / 10 % 10), Nat.digitChar (h % 10)]

structure Decimal where
  digits : List Char
  exponent : Int
  deriving DecidableEq

def decimalExponent (num den : Nat) : Int :=
  if den ≤ num then (digitChars (num / den)).length
  else
    let places := (digitChars (den / num)).length - 1
    if den = num * Nat.pow 10 places then 1 - (places : Int) else -(places : Int)

def decimalShifted (num den : Nat) (places : Int) : Nat × Nat :=
  if 0 ≤ places then (num * Nat.pow 10 places.toNat, den)
  else (num, den * Nat.pow 10 (-places).toNat)

def readsBack (v : Binary64) (exponent : Int) (count : Nat) : Option Nat :=
  let (n, d) := v.fraction
  let places := (count : Int) - exponent
  let (n', d') := decimalShifted n d places
  let low := n' / d'
  let fits (c : Nat) : Bool :=
    let (cn, cd) := decimalShifted c 1 (-places)
    Binary64.ofQuotient cn cd == v
  match fits low, fits (low + 1) with
  | true, true => some (if 2 * (n' % d') < d' then low else low + 1)
  | true, false => some low
  | false, true => some (low + 1)
  | false, false => none

/-- Seventeen digits always read back; a carry into a new first digit moves the point. -/
def shortest (v : Binary64) : Decimal :=
  let (n, d) := v.fraction
  let e := decimalExponent n d
  let tries := (List.range 17).map (· + 1)
  match tries.findSome? fun count => (readsBack v e count).map (count, ·) with
  | some (count, c) =>
    let ds := digitChars c
    ⟨(ds.reverse.dropWhile (· == '0')).reverse, e + ((ds.length : Int) - count)⟩
  | none => ⟨['0'], 1⟩

def positional (v : Binary64) : List Char :=
  if v.mantissa = 0 then ['0', '.', '0']
  else
    let x := shortest v
    if x.exponent ≤ 0 then
      ['0', '.'] ++ List.replicate (-x.exponent).toNat '0' ++ x.digits
    else
      let whole := x.exponent.toNat
      if x.digits.length ≤ whole then
        x.digits ++ List.replicate (whole - x.digits.length) '0' ++ ['.', '0']
      else x.digits.take whole ++ '.' :: x.digits.drop whole

end AccessTrail.Number
