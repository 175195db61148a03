import AccessTrail.Text.Hex
import AccessTrail.Toml.Scan

namespace AccessTrail.Toml

def isBasicChar (c : Char) : Bool := isCommentChar c && c != '"' && c != '\\'

def isLiteralChar (c : Char) : Bool := isCommentChar c && c != '\''

def shortEscape? : Char → Option Char
  | 'b' => some '\x08'
  | 't' => some '\t'
  | 'n' => some '\n'
  | 'f' => some '\x0C'
  | 'r' => some '\r'
  | '"' => some '"'
  | '\\' => some '\\'
  | _ => none

def scalar? (width : Nat) (cs : List Char) : Option Char :=
  match Hex.read? width cs with
  | some (n, _) => if h : n.isValidChar then some (Char.ofNatAux n h) else none
  | none => none

def escape? : List Char → Option (Char × Nat)
  | 'u' :: cs => (scalar? 4 cs).map (·, 5)
  | 'U' :: cs => (scalar? 8 cs).map (·, 9)
  | c :: _ => (shortEscape? c).map (·, 1)
  | [] => none

def cons (c : Char) (r : Option (List Char × List Char)) : Option (List Char × List Char) :=
  r.map fun (cs, rest) => (c :: cs, rest)

def basic (cs : List Char) : Option (List Char × List Char) :=
  match cs with
  | [] => none
  | '"' :: rest => some ([], rest)
  | '\\' :: rest =>
    match escape? rest with
    | some (c, n) => cons c (basic (rest.drop n))
    | none => none
  | c :: rest => if isBasicChar c then cons c (basic rest) else none
termination_by cs.length
decreasing_by all_goals simp; try omega

def literal : List Char → Option (List Char × List Char)
  | [] => none
  | '\'' :: rest => some ([], rest)
  | c :: rest => if isLiteralChar c then cons c (literal rest) else none

def closing (quote : Char) : List Char → List Char × List Char
  | a :: b :: rest =>
    if a = quote then (if b = quote then ([a, b], rest) else ([a], b :: rest))
    else ([], a :: b :: rest)
  | [a] => if a = quote then ([a], []) else ([], [a])
  | [] => ([], [])

def basicLines (cs : List Char) : Option (List Char × List Char) :=
  match cs with
  | [] => none
  | '"' :: '"' :: '"' :: rest => some (closing '"' rest)
  | '"' :: rest => cons '"' (basicLines rest)
  | '\n' :: rest => cons '\n' (basicLines rest)
  | '\r' :: '\n' :: rest => cons '\n' (basicLines rest)
  | '\\' :: rest =>
    match lineEnd? (skipBlanks rest), escape? rest with
    | some _, _ => basicLines (skipLines rest)
    | none, some (c, n) => cons c (basicLines (rest.drop n))
    | none, none => none
  | c :: rest => if isBasicChar c then cons c (basicLines rest) else none
termination_by cs.length
decreasing_by
  all_goals simp only [List.length_cons, List.length_drop]
  case _ => omega
  case _ => omega
  case _ => omega
  case _ => have := length_skipLines_le rest; omega
  case _ => omega
  case _ => omega

def literalLines : List Char → Option (List Char × List Char)
  | [] => none
  | '\'' :: '\'' :: '\'' :: rest => some (closing '\'' rest)
  | '\'' :: rest => cons '\'' (literalLines rest)
  | '\n' :: rest => cons '\n' (literalLines rest)
  | '\r' :: '\n' :: rest => cons '\n' (literalLines rest)
  | c :: rest => if isLiteralChar c then cons c (literalLines rest) else none

def firstLine (cs : List Char) : List Char := (lineEnd? cs).getD cs

def string? : Reader String := fun cs =>
  let r := match cs with
    | '"' :: '"' :: '"' :: rest => basicLines (firstLine rest)
    | '"' :: rest => basic rest
    | '\'' :: '\'' :: '\'' :: rest => literalLines (firstLine rest)
    | '\'' :: rest => literal rest
    | _ => none
  r.map fun (cs, rest) => (String.ofList cs, rest)

def isBareChar (c : Char) : Bool :=
  ('a' ≤ c && c ≤ 'z') || ('A' ≤ c && c ≤ 'Z') || ('0' ≤ c && c ≤ '9') || c == '-' || c == '_'

def simpleKey? : Reader String := fun cs =>
  match cs with
  | '"' :: rest => (basic rest).map fun (cs, rest) => (String.ofList cs, rest)
  | '\'' :: rest => (literal rest).map fun (cs, rest) => (String.ofList cs, rest)
  | cs =>
    match cs.takeWhile isBareChar with
    | [] => none
    | name => some (String.ofList name, cs.dropWhile isBareChar)

def keyParts : Nat → List Char → Option (List String × List Char)
  | 0, _ => none
  | n + 1, cs =>
    match simpleKey? (skipBlanks cs) with
    | none => none
    | some (k, rest) =>
      match skipBlanks rest with
      | '.' :: rest => (keyParts n rest).map fun (ks, rest) => (k :: ks, rest)
      | rest => some ([k], rest)

def depthLimit : Nat := 80

def key? : Reader (List String) := keyParts (depthLimit - 1)

end AccessTrail.Toml
