import AccessTrail.Http.Request
import AccessTrail.Http.Response
import AccessTrail.Text.Hex

namespace AccessTrail.Http

def lineFeed : UInt8 := 0x0A
def carriageReturn : UInt8 := 0x0D
def lineBreak : Bytes := [carriageReturn, lineFeed]

structure Call where
  request : Request
  chunks : Bool
  lasting : Bool
  rest : Bytes
  deriving DecidableEq

inductive Front
  | short
  | bad
  | call : Call → Front
  deriving DecidableEq

namespace Call

def lineOfReverse (bs : Bytes) : Bytes :=
  match bs with
  | b :: rest => (if b = carriageReturn then rest else bs).reverse
  | [] => []

def headLines (line : Bytes) : Bytes → Option (List Bytes × Bytes)
  | [] => none
  | b :: bs =>
    if b = lineFeed then
      match lineOfReverse line with
      | [] => some ([], bs)
      | l => (headLines [] bs).map fun (ls, rest) => (l :: ls, rest)
    else headLines (b :: line) bs

def isBlank (b : UInt8) : Bool := b == 0x20 || b == 0x09

def trim (bs : Bytes) : Bytes := ((bs.dropWhile isBlank).reverse.dropWhile isBlank).reverse

def field? (line : Bytes) : Option (String × Bytes) := do
  let name ← headerName? (String.ofList (← Utf8.text? (line.takeWhile (· != 0x3A))))
  match line.dropWhile (· != 0x3A) with
  | _ :: value => if isHeaderValue (trim value) then some (name, trim value) else none
  | [] => none

def requestLine? (line : Bytes) : Option (Method × Uri × Bool) := do
  match (String.ofList (← Utf8.text? line)).splitOn " " with
  | [method, target, version] =>
    let later ← match version with
      | "HTTP/1.1" => some true
      | "HTTP/1.0" => some false
      | _ => none
    return (← Method.parse? method, ← Uri.parse? target, later)
  | _ => none

def closes (h : Headers) : Bool := h.get? "connection" == some (Utf8.ofString "close")

def hasBody (h : Headers) : Bool :=
  (h.get? "content-length").isSome || (h.get? "transfer-encoding").isSome

def ofLines? (lines : List Bytes) (rest : Bytes) : Option Call := do
  match lines with
  | [] => none
  | first :: fields =>
    let (method, uri, later) ← requestLine? first
    let headers : Headers := ⟨← fields.mapM field?⟩
    return { request := { method, uri, headers }, chunks := later, rest,
             lasting := later && !closes headers && !hasBody headers }

def read (bs : Bytes) : Front :=
  match headLines [] bs with
  | none => .short
  | some (lines, rest) =>
    match ofLines? lines rest with
    | some c => .call c
    | none => .bad

end Call

namespace Head

def statusLine (s : Status) : Bytes :=
  Utf8.ofString ("HTTP/1.1 " ++ toString s.code ++ " " ++
    (Status.reasons.lookup s.code).getD "<none>") ++ lineBreak

def fieldLine (f : String × Bytes) : Bytes :=
  Utf8.ofString f.1 ++ 0x3A :: 0x20 :: (f.2 ++ lineBreak)

def bytes (h : Head) : Bytes :=
  statusLine h.status ++ h.headers.fields.flatMap fieldLine ++ lineBreak

end Head

def chunk (bs : Bytes) : Bytes :=
  if bs.isEmpty then []
  else Utf8.encode (Hex.digits bs.length) ++ lineBreak ++ bs ++ lineBreak

def lastChunk : Bytes := 0x30 :: lineBreak ++ lineBreak

end AccessTrail.Http
