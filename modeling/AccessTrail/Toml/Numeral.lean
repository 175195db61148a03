import AccessTrail.Text.Hex
import AccessTrail.Toml.Scan
import AccessTrail.Toml.Value

namespace AccessTrail.Toml

def isDigit (c : Char) : Bool := '0' ≤ c && c ≤ '9'

def moreDigits (p : Char → Bool) : List Char → Option (List Char × List Char)
  | [] => some ([], [])
  | ['_'] => none
  | '_' :: d :: rest =>
    if p d then (moreDigits p rest).map fun (ds, rest) => (d :: ds, rest) else none
  | d :: rest =>
    if p d then (moreDigits p rest).map fun (ds, rest) => (d :: ds, rest) else some ([], d :: rest)

def digits (p : Char → Bool) : List Char → Option (List Char × List Char)
  | d :: rest => if p d then (moreDigits p rest).map fun (ds, rest) => (d :: ds, rest) else none
  | [] => none

def ofDigits (base : Nat) (ds : List Char) : Nat :=
  ds.foldl (fun n d => n * base + (Hex.value? d).getD 0) 0

def sign : List Char → Bool × List Char
  | '-' :: cs => (true, cs)
  | '+' :: cs => (false, cs)
  | cs => (false, cs)

def wholeDigits : List Char → Option (List Char × List Char)
  | '0' :: rest => some (['0'], rest)
  | cs => digits isDigit cs

def signedBound : Nat := Nat.pow 2 63

def integer? (negative : Bool) (n : Nat) : Option Value :=
  let i : Int := if negative then -(n : Int) else n
  if -(signedBound : Int) ≤ i ∧ i < signedBound then some (.integer i) else none

def scaleLimit : Int := 400

def magnitude? (n : Nat) (scale : Int) : Option Number.Binary64 :=
  let size : Int := (Nat.toDigits 10 n).length + scale
  if n = 0 then some .zero
  else if scaleLimit < size then none
  else if size < -scaleLimit then some .zero
  else
    let (num, den) := Number.decimalShifted n 1 scale
    let v := Number.Binary64.ofQuotient num den
    if v.isFinite then some v else none

def real? (negative : Bool) (n : Nat) (scale : Int) : Option Value :=
  match magnitude? n scale with
  | some v => some (.real (.finite negative v))
  | none => if negative then some (.real (.infinite true)) else none

def fraction : List Char → Option (List Char × List Char)
  | '.' :: rest => digits isDigit rest
  | cs => some ([], cs)

def exponent : List Char → Option (Option Int × List Char)
  | c :: rest =>
    if c = 'e' ∨ c = 'E' then
      let (negative, rest) := sign rest
      (digits isDigit rest).map fun (ds, rest) =>
        let n : Int := ofDigits 10 ds
        (some (if negative then -n else n), rest)
    else some (none, c :: rest)
  | [] => some (none, [])

def decimal? (negative : Bool) : Reader Value := fun cs => do
  let (whole, cs) ← wholeDigits cs
  let (places, cs) ← fraction cs
  let (power, cs) ← exponent cs
  let value ←
    if places.isEmpty && power.isNone then integer? negative (ofDigits 10 whole)
    else real? negative (ofDigits 10 (whole ++ places)) (power.getD 0 - places.length)
  return (value, cs)

def based? (base : Nat) (p : Char → Bool) : Reader Value := fun cs => do
  let (ds, cs) ← digits p cs
  return (← integer? false (ofDigits base ds), cs)

def isHexDigit (c : Char) : Bool := (Hex.value? c).isSome

def number? : Reader Value := fun cs =>
  match cs with
  | '0' :: 'x' :: rest => based? 16 isHexDigit rest
  | '0' :: 'o' :: rest => based? 8 (fun c => '0' ≤ c && c ≤ '7') rest
  | '0' :: 'b' :: rest => based? 2 (fun c => c == '0' || c == '1') rest
  | cs =>
    match sign cs with
    | (negative, 'i' :: 'n' :: 'f' :: rest) => some (.real (.infinite negative), rest)
    | (_, 'n' :: 'a' :: 'n' :: rest) => some (.real .nan, rest)
    | (negative, rest) => decimal? negative rest

def field (width low high : Nat) (cs : List Char) : Option (Nat × List Char) :=
  let ds := cs.take width
  let n := ofDigits 10 ds
  if ds.length = width ∧ ds.all isDigit ∧ low ≤ n ∧ n ≤ high then some (n, cs.drop width) else none

def mark (c : Char) : List Char → Option (List Char)
  | d :: rest => if d = c then some rest else none
  | [] => none

def isLeap (year : Nat) : Bool := year % 4 == 0 && (year % 100 != 0 || year % 400 == 0)

def monthLength (year month : Nat) : Nat :=
  if month = 2 then (if isLeap year then 29 else 28)
  else if month = 4 ∨ month = 6 ∨ month = 9 ∨ month = 11 then 30
  else 31

def date (cs : List Char) : Option (List Char) := do
  let (year, cs) ← field 4 0 9999 cs
  let (month, cs) ← field 2 1 12 (← mark '-' cs)
  let (_, cs) ← field 2 1 (monthLength year month) (← mark '-' cs)
  return cs

def hourMinute (cs : List Char) : Option (List Char) := do
  let (_, cs) ← field 2 0 23 cs
  let (_, cs) ← field 2 0 59 (← mark ':' cs)
  return cs

def time (cs : List Char) : Option (List Char) := do
  let (_, cs) ← field 2 0 60 (← mark ':' (← hourMinute cs))
  match cs with
  | '.' :: d :: rest => if isDigit d then return rest.dropWhile isDigit else return cs
  | cs => return cs

def offset : List Char → Option (List Char)
  | c :: rest =>
    if c = 'Z' ∨ c = 'z' then some rest
    else if c = '+' ∨ c = '-' then hourMinute rest
    else some (c :: rest)
  | [] => some []

def dateTime (cs : List Char) : Option (List Char) := do
  let cs ← date cs
  match cs with
  | c :: rest =>
    if (c = 'T' ∨ c = 't' ∨ c = ' ') ∧ (rest.take 2).all isDigit ∧
        (rest.drop 2).head? = some ':' then
      offset (← time rest)
    else return cs
  | [] => return []

def startsMoment (cs : List Char) : Bool :=
  ((cs.take 4).all isDigit && (cs.drop 4).head? == some '-') ||
    ((cs.take 2).all isDigit && (cs.drop 2).head? == some ':')

def moment? : Reader Value := fun cs =>
  let r := if (cs.drop 2).head? = some ':' then time cs else dateTime cs
  r.map (.moment, ·)

end AccessTrail.Toml
