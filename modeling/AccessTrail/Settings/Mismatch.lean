import AccessTrail.Settings.Basic
import AccessTrail.Text.Literal
import AccessTrail.Toml.Value

namespace AccessTrail

namespace Toml

def Value.shown : Value → String
  | .text s => "string " ++ Text.literal s
  | .integer i => "integer " ++ Text.tick (toString i)
  | .real r => "floating point " ++ Text.tick r.text
  | .boolean b => "boolean " ++ Text.tick (toString b)
  | .moment | .table .. => "map"
  | .array .. => "sequence"

def Value.kind : Value → String
  | .text _ => "string"
  | .integer _ => "integer"
  | .real _ => "float"
  | .boolean _ => "boolean"
  | .moment => "datetime"
  | .table .. => "table"
  | .array .. => "array"

end Toml

namespace Settings

inductive Mismatch
  | type : (found : Toml.Value) → (expected : String) → Mismatch
  | range : Int → (expected : String) → Mismatch
  | unknownVariant : String → Mismatch
  | noVariant
  | variantCount : (several : Bool) → Mismatch
  | fullVariant : Toml.Value → Mismatch

def Mismatch.text : Mismatch → String
  | type found expected => "invalid type: " ++ found.shown ++ ", expected " ++ expected
  | range i expected =>
    "invalid value: " ++ (Toml.Value.integer i).shown ++ ", expected " ++ expected
  | unknownVariant name =>
    "unknown variant " ++ Text.tick name ++ ", expected one of " ++
      ", ".intercalate (Destination.all.map fun d => Text.tick d.name)
  | noVariant => "wanted string or table"
  | variantCount several =>
    "wanted exactly 1 element, " ++ (if several then "more than 1 element" else "found 0 elements")
  | fullVariant v =>
    match v with
    | .array true _ => "expected empty array"
    | .table .. | .array false _ => "expected empty table"
    | v => "expected table, found " ++ v.kind

end Settings

end AccessTrail
