import AccessTrail.Toml.Numeral
import AccessTrail.Toml.Table
import AccessTrail.Toml.Text

namespace AccessTrail.Toml

structure Pair where
  path : List String
  name : String
  value : Value

def Pair.of (parts : List String) (value : Value) : Pair :=
  ⟨parts.dropLast, parts.getLast?.getD "", value⟩

inductive Line
  | header : (array : Bool) → (path : List String) → (name : String) → Line
  | pair : Pair → Line

section Nested

variable (value : Reader Value)

def items : Nat → List Char → Option (List Value × List Char)
  | 0, _ => none
  | n + 1, cs =>
    match skipGaps (n + 1) cs with
    | ']' :: rest => some ([], rest)
    | cs =>
      match value cs with
      | none => none
      | some (v, rest) =>
        match skipGaps (n + 1) rest with
        | ',' :: rest => (items n rest).map fun (vs, rest) => (v :: vs, rest)
        | ']' :: rest => some ([v], rest)
        | _ => none

def pair? : Reader Pair := fun cs =>
  match key? cs with
  | some (parts, '=' :: rest) => (value (skipBlanks rest)).map fun (v, rest) => (.of parts v, rest)
  | _ => none

def pairs : Nat → List Char → Option (List Pair × List Char)
  | 0, _ => none
  | n + 1, cs =>
    match pair? value cs with
    | none => none
    | some (p, rest) =>
      match skipBlanks rest with
      | ',' :: rest => (pairs n rest).map fun (ps, rest) => (p :: ps, rest)
      | '}' :: rest => some ([p], rest)
      | _ => none

def putAll (ps : List Pair) : Option Fields :=
  ps.foldlM (fun fs p => fs.put p.path p.name p.value) []

def braces : Reader Value := fun cs =>
  match skipBlanks cs with
  | '}' :: rest => some (.table .inline [], rest)
  | cs =>
    match pairs value cs.length cs with
    | some (ps, rest) => (putAll ps).map fun fs => (.table .inline fs, rest)
    | none => none

end Nested

def value : Nat → Reader Value := fun depth cs =>
  match depth, cs with
  | d + 1, '[' :: rest =>
    (items (value d) cs.length rest).map fun (vs, rest) => (.array false vs, rest)
  | d + 1, '{' :: rest => braces (value d) rest
  | _, 't' :: 'r' :: 'u' :: 'e' :: rest => some (.boolean true, rest)
  | _, 'f' :: 'a' :: 'l' :: 's' :: 'e' :: rest => some (.boolean false, rest)
  | _, '"' :: _ | _, '\'' :: _ => (string? cs).map fun (s, rest) => (.text s, rest)
  | _, cs => if startsMoment cs then moment? cs else number? cs

def header (array : Bool) (parts : List String) : Line :=
  .header array parts.dropLast (parts.getLast?.getD "")

def header? : Reader Line := fun cs =>
  match cs with
  | '[' :: '[' :: rest =>
    match key? rest with
    | some (parts, ']' :: ']' :: rest) => some (header true parts, rest)
    | _ => none
  | '[' :: rest =>
    match key? rest with
    | some (parts, ']' :: rest) => some (header false parts, rest)
    | _ => none
  | _ => none

def line? : Reader Line := fun cs =>
  match cs with
  | '[' :: _ => header? cs
  | cs => (pair? (value (depthLimit - 1)) cs).map fun (p, rest) => (.pair p, rest)

def linesFrom : Nat → List Char → Option (List Line)
  | 0, _ => none
  | n + 1, cs =>
    match skipBlanks cs with
    | [] => some []
    | '#' :: rest => do linesFrom n (← endLine? ('#' :: rest))
    | cs =>
      match lineEnd? cs with
      | some rest => linesFrom n rest
      | none => do
        let (l, rest) ← line? cs
        return l :: (← linesFrom n (← endLine? rest))

def lines? (cs : List Char) : Option (List Line) :=
  match cs with
  | '\uFEFF' :: rest => linesFrom cs.length rest
  | cs => linesFrom (cs.length + 1) cs

end AccessTrail.Toml
