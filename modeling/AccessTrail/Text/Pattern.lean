import AccessTrail.Text.Alphanumeric
import AccessTrail.Text.Hex
import AccessTrail.Text.Space

/-!
Patterns for values: which texts are patterns at all. A pattern has groups, alternatives,
repetitions, classes and escapes; a count in braces cannot occur in one. Properties of characters
beyond ASCII are not to be had, so letters, digits and blanks as a kind, edges of words, and letters
in either case are refused unless all is kept to ASCII.
-/

namespace AccessTrail.Text.Pattern

structure Mode where
  folded : Bool := false
  wide : Bool := true
  spaced : Bool := false

def Mode.admits (m : Mode) (c : Char) : Bool := if m.wide then !m.folded else c.toNat < 0x80

def skipSpace : (comment : Bool) → List Char → List Char
  | _, [] => []
  | true, c :: cs => skipSpace (c != '\n') cs
  | false, c :: cs =>
    if c = '#' then skipSpace true cs else if isSpace c then skipSpace false cs else c :: cs

def Mode.skip (m : Mode) (cs : List Char) : List Char := if m.spaced then skipSpace false cs else cs

inductive Atom
  | char : Char → Atom
  | kind : (negated : Bool) → Atom
  | place
  | wordEdge

def Atom.fits (m : Mode) : Atom → Bool
  | char c => m.admits c
  | kind negated => !m.wide && !negated
  | place => true
  | wordEdge => !m.wide

def hexChar? (m : Mode) : (count : Nat) → (value : Nat) → List Char → Option (Atom × List Char)
  | 0, n, cs => if n.isValidChar then some (.char (Char.ofNat n), cs) else none
  | count + 1, n, cs =>
    match m.skip cs with
    | c :: cs => (Hex.value? c).bind fun d => hexChar? m count (n * 16 + d) cs
    | [] => none

def escape? (m : Mode) : List Char → Option (Atom × List Char)
  | [] => none
  | c :: cs =>
    match c with
    | 'x' => hexChar? m 2 0 cs
    | 'u' => hexChar? m 4 0 cs
    | 'U' => hexChar? m 8 0 cs
    | 'd' | 's' | 'w' => some (.kind false, cs)
    | 'D' | 'S' | 'W' => some (.kind true, cs)
    | 'a' | 'f' | 't' | 'n' | 'r' | 'v' => some (.char c, cs)
    | 'A' | 'z' => some (.place, cs)
    | 'b' | 'B' | '<' | '>' => some (.wordEdge, cs)
    | _ => if c.toNat < 0x80 && !c.isAlphanum then some (.char c, cs) else none

def nestLimit : Nat := 250

def asciiNames : List String :=
  ["alnum", "alpha", "ascii", "blank", "cntrl", "digit", "graph", "lower", "print", "punct",
   "space", "upper", "word", "xdigit"]

def namedClass? (cs : List Char) : Option (List Char) :=
  match cs with
  | ':' :: cs =>
    let cs := match cs with
      | '^' :: cs => cs
      | cs => cs
    match cs.dropWhile (· != ':') with
    | ':' :: ']' :: rest =>
      if asciiNames.contains (String.ofList (cs.takeWhile (· != ':'))) then some rest else none
    | _ => none
  | _ => none

def skipDashes (m : Mode) : (fuel : Nat) → List Char → List Char
  | 0, cs => cs
  | n + 1, cs =>
    match m.skip cs with
    | '-' :: cs => skipDashes m n cs
    | cs => cs

def openClass? (m : Mode) (cs : List Char) : Option (List Char) :=
  let (negated, cs) := match m.skip cs with
    | '^' :: cs => (true, m.skip cs)
    | cs => (false, cs)
  if m.folded && m.wide || negated && !m.wide then none
  else
    match cs with
    | '-' :: cs => some (skipDashes m cs.length cs)
    | ']' :: cs => some cs
    | cs => some cs

def member? (m : Mode) : List Char → Option (Option Char × List Char)
  | [] => none
  | '\\' :: cs =>
    match escape? m cs with
    | some (.char c, rest) => if m.admits c then some (some c, rest) else none
    | some (.kind negated, rest) => if (Atom.kind negated).fits m then some (none, rest) else none
    | _ => none
  | c :: cs => if m.admits c then some (some c, cs) else none

def range? (m : Mode) (cs : List Char) : Option (List Char) :=
  match member? m cs with
  | none => none
  | some (first, rest) =>
    match m.skip rest with
    | '-' :: rest =>
      match m.skip rest with
      | ']' :: _ | '-' :: _ => some ('-' :: rest)
      | rest =>
        match first, member? m rest with
        | some a, some (some b, rest) => if a ≤ b then some rest else none
        | _, _ => none
    | rest => some rest

def closeClass? (m : Mode) : (fuel depth : Nat) → List Char → Option (List Char)
  | 0, _, _ => none
  | n + 1, depth, cs =>
    match m.skip cs with
    | [] => none
    | '[' :: cs =>
      match namedClass? cs with
      | some rest => closeClass? m n depth rest
      | none =>
        if depth < nestLimit then (openClass? m cs).bind (closeClass? m n (depth + 1)) else none
    | ']' :: cs => if depth = 1 then some cs else closeClass? m n (depth - 1) cs
    | '&' :: '&' :: cs | '-' :: '-' :: cs | '~' :: '~' :: cs => closeClass? m n depth cs
    | cs => (range? m cs).bind (closeClass? m n depth)

def class? (m : Mode) (cs : List Char) : Option (List Char) :=
  (openClass? m cs).bind fun rest => closeClass? m (rest.length + 1) 1 rest

structure Level where
  mode : Mode := {}
  last : Option Nat := none
  count : Nat := 0
  deepest : Nat := 0
  branches : Option Nat := none

namespace Level

def add (depth : Nat) (repeatable : Bool) (l : Level) : Level :=
  { l with
    last := if repeatable then some depth else none
    count := l.count + 1
    deepest := max l.deepest depth }

def repeated? (l : Level) : Option Level :=
  l.last.map fun d => { l with last := some (d + 1), deepest := max l.deepest (d + 1) }

def branchDepth (l : Level) : Nat := if 1 < l.count then l.deepest + 1 else l.deepest

def branch (l : Level) : Level :=
  { mode := l.mode, branches := some (max (l.branches.getD 0) l.branchDepth) }

def depth (l : Level) : Nat :=
  match l.branches with
  | some d => max d l.branchDepth + 1
  | none => l.branchDepth

end Level

structure Reading where
  here : Level := {}
  outer : List Level := []
  names : List (List Char) := []

def Reading.enter (m : Mode) (r : Reading) : Reading :=
  { r with here := { mode := m }, outer := r.here :: r.outer }

def Reading.leave? (r : Reading) : Option Reading :=
  match r.outer with
  | l :: outer => some { r with here := l.add (r.here.depth + 1) true, outer }
  | [] => none

def Reading.add (depth : Nat) (r : Reading) : Reading := { r with here := r.here.add depth true }

def isName : List Char → Bool
  | [] => false
  | c :: cs =>
    (c == '_' || isAlphanumeric c && !c.isDigit) &&
      cs.all fun c => c == '_' || c == '.' || c == '[' || c == ']' || isAlphanumeric c

def flagNames : List Char := ['i', 'm', 's', 'U', 'u', 'R', 'x']

def Mode.set (flag : Char) (on : Bool) (m : Mode) : Mode :=
  match flag with
  | 'i' => { m with folded := on }
  | 'u' => { m with wide := on }
  | 'x' => { m with spaced := on }
  | _ => m

def flags? (m : Mode) :
    (seen : List Char) → List Char → Option (Mode × List Char × Char × List Char)
  | _, [] => none
  | seen, c :: cs =>
    if c = ':' || c = ')' then
      if seen.head? = some '-' then none else some (m, seen, c, cs)
    else if seen.contains c || !(c = '-' || flagNames.contains c) then none
    else flags? (m.set c !(seen.contains '-')) (c :: seen) cs

def group? (r : Reading) (cs : List Char) : Option (Reading × List Char) :=
  let named (cs : List Char) : Option (Reading × List Char) :=
    let name := cs.takeWhile (· != '>')
    match cs.dropWhile (· != '>') with
    | _ :: rest =>
      if isName name && !r.names.contains name then
        some ({ r.enter r.here.mode with names := name :: r.names }, rest)
      else none
    | [] => none
  match r.here.mode.skip cs with
  | '?' :: 'P' :: '<' :: cs | '?' :: '<' :: cs => named cs
  | '?' :: cs =>
    match flags? r.here.mode [] cs with
    | some (m, _, ':', rest) => some (r.enter m, rest)
    | some (m, _ :: _, _, rest) =>
      some ({ r with here := { r.here.add 0 false with mode := m } }, rest)
    | _ => none
  | cs => some (r.enter r.here.mode, cs)

def step? (r : Reading) (c : Char) (cs : List Char) : Option (Reading × List Char) :=
  let mode := r.here.mode
  match c with
  | '(' => group? r cs
  | ')' => r.leave?.map (·, cs)
  | '|' => some ({ r with here := r.here.branch }, cs)
  | '[' => (class? mode cs).map (r.add 1, ·)
  | '*' | '+' | '?' =>
    r.here.repeated?.map fun l => ({ r with here := l }, match cs with
      | '?' :: cs => cs
      | cs => cs)
  | '\\' =>
    (escape? mode cs).bind fun (a, rest) => if a.fits mode then some (r.add 0, rest) else none
  | '.' => if mode.wide then some (r.add 0, cs) else none
  | '^' | '$' => some (r.add 0, cs)
  | c => if c.toNat != 0x7B && mode.admits c then some (r.add 0, cs) else none

def read (r : Reading) : (fuel : Nat) → List Char → Bool
  | 0, cs => cs.isEmpty && r.outer.isEmpty && r.here.depth ≤ nestLimit
  | n + 1, cs =>
    match r.here.mode.skip cs with
    | [] => read r n []
    | c :: cs =>
      match step? r c cs with
      | some (r, rest) => read r n rest
      | none => false

def isValid (cs : List Char) : Bool := read {} (cs.length + 1) cs

end AccessTrail.Text.Pattern
