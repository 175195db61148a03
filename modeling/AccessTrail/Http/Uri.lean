import AccessTrail.Text.Utf8
import AccessTrail.Http.Token

/-!
Request targets. Nothing is decoded or escaped: an accepted target prints as it was written, except
that a fragment is dropped, the two web schemes are lowered, and an empty path after an authority
becomes `/`.
-/

namespace AccessTrail.Http

def isControl (c : Char) : Bool := c.toNat < 0x20 || c.toNat == 0x7F

def isPathChar (c : Char) : Bool :=
  !(isControl c || c == ' ' || c == '<' || c == '>' || c.toNat == 0x60)

def isQueryChar (c : Char) : Bool :=
  !(isControl c || c == ' ' || c == '<' || c == '>' || c == '"')

def isSchemeChar (c : Char) : Bool := isAsciiAlnum c || "+-.~".toList.contains c

def isAuthorityChar (c : Char) : Bool := isAsciiAlnum c || "!$%&'()*+,-.:;=@[]_~".toList.contains c

structure Target where
  path : List Char
  query : Option (List Char)
  pathOk : path.all isPathChar = true
  queryOk : (query.getD []).all isQueryChar = true
  deriving DecidableEq

structure Authority where
  chars : List Char
  ok : chars.all isAuthorityChar = true
  deriving DecidableEq

structure Scheme where
  chars : List Char
  ok : chars.all isSchemeChar = true
  deriving DecidableEq

inductive Uri
  | asterisk : Uri
  | origin : Target → Uri
  | authority : Authority → Uri
  | absolute : Scheme → Authority → Target → Uri
  deriving DecidableEq

namespace Uri

structure Scan where
  colons : Nat := 0
  opened : Bool := false
  closed : Bool := false
  percent : Bool := false
  endsInAt : Bool := false

/-- Colons and percent signs are forgotten where a user part or a bracket ends. -/
def Scan.step (s : Scan) (c : Char) : Option Scan :=
  let s := { s with endsInAt := false }
  match c with
  | ':' => if s.colons < 8 then some { s with colons := s.colons + 1 } else none
  | '[' => if s.percent || s.opened then none else some { s with opened := true }
  | ']' =>
    if !s.opened || s.closed then none
    else some { s with closed := true, colons := 0, percent := false }
  | '@' => some { s with colons := 0, percent := false, endsInAt := true }
  | '%' => some { s with percent := true }
  | _ => some s

def Scan.ok (s : Scan) : Bool :=
  s.opened == s.closed && s.colons ≤ 1 && !s.percent && !s.endsInAt

def isAuthority (cs : List Char) : Bool :=
  cs.all isAuthorityChar && ((cs.foldlM Scan.step {}).any Scan.ok)

def endsAuthority (c : Char) : Bool := c == '/' || c == '?' || c == '#'

def target? (cs : List Char) : Option Target :=
  let kept := cs.takeWhile (· != '#')
  let path := kept.takeWhile (· != '?')
  let query := (kept.dropWhile (· != '?')).tail?
  if h : path.all isPathChar = true ∧ (query.getD []).all isQueryChar = true then
    some ⟨path, query, h.1, h.2⟩
  else none

def schemeLimit : Nat := 64

def sameIgnoringCase (a b : List Char) : Bool :=
  a.map Char.toLower == b.map Char.toLower

def scheme? (cs : List Char) : Option (Option (Scheme × List Char)) :=
  if sameIgnoringCase (cs.take 7) "http://".toList then
    some (some (⟨['h', 't', 't', 'p'], by decide⟩, cs.drop 7))
  else if sameIgnoringCase (cs.take 8) "https://".toList then
    some (some (⟨['h', 't', 't', 'p', 's'], by decide⟩, cs.drop 8))
  else
    let name := cs.takeWhile isSchemeChar
    match cs.dropWhile isSchemeChar with
    | ':' :: '/' :: '/' :: rest =>
      if schemeLimit < name.length then none
      else if 3 < cs.length then
        if h : name.all isSchemeChar = true then some (some (⟨name, h⟩, rest)) else some none
      else some none
    | _ => some none

def absolute? (scheme : Scheme) (cs : List Char) : Option Uri :=
  let host := cs.takeWhile (fun c => !endsAuthority c)
  if host.isEmpty || !isAuthority host then none
  else if h : host.all isAuthorityChar = true then
    (target? (cs.dropWhile fun c => !endsAuthority c)).map fun t =>
      .absolute scheme ⟨host, h⟩
        (if t.path.isEmpty then { t with path := ['/'], pathOk := by decide } else t)
  else none

def authority? (cs : List Char) : Option Uri :=
  if isAuthority cs then
    if h : cs.all isAuthorityChar = true then some (.authority ⟨cs, h⟩) else none
  else none

def lengthLimit : Nat := 65534

def ofChars? (cs : List Char) : Option Uri :=
  if lengthLimit < (Utf8.encode cs).length then none
  else
    match cs with
    | [] => none
    | ['*'] => some .asterisk
    | '/' :: _ => (target? cs).map .origin
    | _ =>
      match scheme? cs with
      | none => none
      | some none => authority? cs
      | some (some (scheme, rest)) => absolute? scheme rest

def parse? (s : String) : Option Uri := ofChars? s.toList

def queryChars : Option (List Char) → List Char
  | none => []
  | some q => '?' :: q

def chars : Uri → List Char
  | .asterisk => ['*']
  | .origin t => t.path ++ queryChars t.query
  | .authority a => a.chars
  | .absolute s a t => s.chars ++ (':' :: '/' :: '/' :: (a.chars ++ (t.path ++ queryChars t.query)))

def text (u : Uri) : String := String.ofList u.chars

def path : Uri → List Char
  | .asterisk => ['*']
  | .origin t => t.path
  | .authority _ => []
  | .absolute _ _ t => t.path

def root : Uri := .origin ⟨['/'], none, by decide, by decide⟩

end Uri

end AccessTrail.Http
