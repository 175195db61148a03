import AccessTrail.Text.Pattern

namespace AccessTrail.Filter

def allDetail : Nat := 5

def lowerAscii (c : Char) : Char := if 'A' ≤ c ∧ c ≤ 'Z' then Char.ofNat (c.toNat + 32) else c

def detail? (cs : List Char) : Option Nat :=
  let ds := match cs with
    | '+' :: ds => ds
    | ds => ds
  if !ds.isEmpty && ds.all (·.isDigit) then
    let n := ds.foldl (fun n c => n * 10 + (c.toNat - '0'.toNat)) 0
    if n ≤ allDetail then some n else none
  else
    match String.ofList (cs.map lowerAscii) with
    | "off" => some 0
    | "error" => some 1
    | "warn" => some 2
    | "info" => some 3
    | "debug" => some 4
    | "trace" => some 5
    | _ => none

structure Directive where
  detail : Nat
  target : List Char := []
  field : Option (List Char) := none
  spanned : Bool := false
  deriving DecidableEq

inductive Flaw
  | malformed
  | noLevel
  | noPattern
  | torn
  deriving DecidableEq

def Flaw.text : Flaw → String
  | malformed => "invalid filter directive"
  | noLevel =>
    "error parsing level filter: expected one of \"off\", \"error\", \"warn\", \"info\", " ++
      "\"debug\", \"trace\", or a number 0-5"
  | noPattern => "invalid field filter: error building NFA"
  | torn => "not a character boundary"

def width : List Char → Nat
  | [] => 0
  | c :: cs => c.utf8Size + width cs

def cut? : (n : Nat) → List Char → Option (List Char × List Char)
  | 0, cs => some ([], cs)
  | _ + 1, [] => none
  | n + 1, c :: cs =>
    if c.utf8Size ≤ n + 1 then (cut? (n + 1 - c.utf8Size) cs).map fun (a, b) => (c :: a, b)
    else none

def remainder (text : List Char) (start : Nat) : Except Flaw (List Char) :=
  match cut? start text with
  | some (_, rest) => .ok rest
  | none => .error .torn

def part (text : List Char) (start stop : Nat) : Except Flaw (List Char) := do
  match cut? (stop - start) (← remainder text start) with
  | some (a, _) => .ok a
  | none => .error .torn

def isDecimal (cs : List Char) : Bool := !cs.isEmpty && cs.all (·.isDigit)

def isExponent : List Char → Bool
  | [] => true
  | e :: cs =>
    (e == 'e' || e == 'E') &&
      match cs with
      | '+' :: ds | '-' :: ds => isDecimal ds
      | ds => isDecimal ds

def isNumber (cs : List Char) : Bool :=
  let after := cs.dropWhile (·.isDigit)
  ["inf", "infinity", "nan"].contains (String.ofList (cs.map lowerAscii)) ||
    match after with
    | '.' :: rest =>
      (after.length < cs.length || rest.head?.any (·.isDigit)) &&
        isExponent (rest.dropWhile (·.isDigit))
    | rest => rest.length < cs.length && isExponent rest

def isValue (cs : List Char) : Bool :=
  Text.Pattern.isValid cs || match cs with
    | '+' :: number => isNumber number
    | _ => false

def levelAt (text : List Char) (start : Nat) : Except Flaw Nat := do
  let cs ← remainder text start
  if cs.isEmpty then .ok allDetail
  else
    match detail? cs with
    | some d => .ok d
    | none => .error .noLevel

def afterBracket (text : List Char) (d : Directive) (start : Nat) :
    List Char → Except Flaw Directive
  | [] => .ok d
  | '=' :: _ => (levelAt text (start + 1)).map ({ d with detail := · })
  | _ => .error .malformed

def openBrace : Char := Char.ofNat 0x7B
def closeBrace : Char := Char.ofNat 0x7D

def fieldOf (cs : List Char) : Except Flaw (List Char × Bool) :=
  let isMark (c : Char) : Bool := c != '='
  match cs.dropWhile isMark with
  | [] => .ok (cs, false)
  | _ :: rest =>
    if isValue (rest.takeWhile isMark) then .ok (cs.takeWhile isMark, true) else .error .noPattern

def afterBrace (text : List Char) (d : Directive) (start : Nat) (cs : List Char) :
    Except Flaw Directive := do
  let stop := start + width (cs.takeWhile (· != closeBrace))
  match cs.dropWhile (· != closeBrace) with
  | [] => .error .malformed
  | _ :: rest =>
    let body ← part text start stop
    if body.isEmpty then .error .malformed
    let (name, valued) ← fieldOf body
    match rest with
    | ']' :: rest =>
      let named := { d with field := some name, spanned := d.spanned || valued }
      afterBracket text named (stop + 2) rest
    | _ => .error .malformed

def inBracket (text : List Char) (d : Directive) (start : Nat) (cs : List Char) :
    Except Flaw Directive := do
  let isName (c : Char) : Bool := c != ']' && c != openBrace
  let stop := start + width (cs.takeWhile isName)
  match cs.dropWhile isName with
  | [] => .error .malformed
  | ']' :: rest =>
    let _ ← part text start stop
    afterBracket text { d with spanned := true } (stop + 1) rest
  | _ :: rest =>
    let name ← part text start stop
    afterBrace text { d with spanned := !name.isEmpty } (stop + 1) rest

def mayStart (c : Char) : Bool := Text.isAlphanumeric c || c == '-' || c == ':' || c == '_'

def isTargetChar (c : Char) : Bool := c != '=' && c != '['

namespace Directive

def read (text : List Char) : Except Flaw Directive := do
  let cs := Text.trim text
  let stop := width (cs.takeWhile isTargetChar)
  match cs.head?, cs.dropWhile isTargetChar with
  | none, _ => .error .malformed
  | some '[', rest => inBracket text { detail := allDetail } 1 (rest.drop 1)
  | some c, rest =>
    if !mayStart c then .error .malformed
    match rest with
    | [] => .ok (match detail? text with
      | some d => { detail := d }
      | none => { detail := allDetail, target := text })
    | '=' :: _ =>
      let target ← part text 0 stop
      return { detail := ← levelAt text (stop + 1), target }
    | _ :: rest =>
      let target ← part text 0 stop
      inBracket text { detail := allDetail, target } (stop + 1) rest

end Directive

end AccessTrail.Filter
