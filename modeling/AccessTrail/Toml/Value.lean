import AccessTrail.Number.Decimal

namespace AccessTrail.Toml

inductive Real
  | finite : (negative : Bool) → Number.Binary64 → Real
  | infinite : (negative : Bool) → Real
  | nan
  deriving DecidableEq

namespace Real

def sign (negative : Bool) : String := if negative then "-" else ""

def text : Real → String
  | finite negative v => sign negative ++ String.ofList (Number.positional v)
  | infinite negative => sign negative ++ "inf"
  | nan => "NaN"

end Real

inductive Origin
  | header
  | passed
  | dotted
  | inline
  deriving DecidableEq

inductive Value
  | text : String → Value
  | integer : Int → Value
  | real : Real → Value
  | boolean : Bool → Value
  | moment : Value
  | array : (byHeaders : Bool) → List Value → Value
  | table : Origin → List (String × Value) → Value

abbrev Fields := List (String × Value)

end AccessTrail.Toml
