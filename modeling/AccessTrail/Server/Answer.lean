import AccessTrail.Http.Wire
import AccessTrail.Session

namespace AccessTrail.Server

inductive Answer
  | response : Http.Head → (body : Bytes) → (broken : Bool) → Answer
  | upgraded : Http.Head → Answer
  deriving DecidableEq

def connect : List Char := "CONNECT".toList

def received (peer : Net.SocketAddress) (incoming : Bytes) (r : Http.Request) : Http.Request :=
  { r with
    peer := some peer
    upgrade :=
      if (r.headers.get? "upgrade").isSome || r.method.chars == connect then some (.opened incoming)
      else none }

def hasBody (method : Http.Method) (status : Http.Status) : Bool :=
  method.chars != "HEAD".toList && !(method.chars == connect && status.code < 300) &&
    200 ≤ status.code && status.code != 204 && status.code != 304

def declared? (h : Http.Headers) : Option Nat := do
  let bs ← h.get? "content-length"
  if !bs.isEmpty && bs.all fun b => 0x30 ≤ b && b ≤ 0x39 then
    some (bs.foldl (fun n b => n * 10 + (b.toNat - 0x30)) 0)
  else none

def framed (method : Http.Method) (known : Option Nat) (h : Http.Head) : Http.Head :=
  if (h.headers.get? "content-length").isSome then h
  else
    match known with
    | some n => { h with headers := h.headers.add "content-length" (Utf8.ofString (toString n)) }
    | none =>
      if hasBody method h.status then
        { h with headers := h.headers.add "transfer-encoding" (Utf8.ofString "chunked") }
      else h

def delivered (h : Http.Head) (body : Bytes) (broken : Bool) : Answer :=
  match declared? h.headers with
  | some n => .response h (body.take n) (broken || body.length < n)
  | none => .response h body broken

variable {ℓ : Type} [Log ℓ]

def readBody (n : Nat) : Nat → Session ℓ → Bytes × Bool × Session ℓ
  | 0, s => ([], true, s)
  | m + 1, s =>
    match (s.tick n).takeBody with
    | (.chunk bs, s) =>
      let (more, broken, s) := readBody n m s
      (bs ++ more, broken, s)
    | (.finished, s) => ([], false, s)
    | (.broken _, s) | (.waiting, s) | (.nothing, s) => ([], true, s)

def timedOut : Http.Head := ⟨.requestTimeout, {}⟩

/-- Runs one request to its end. A task that sends no head and waits for ever runs into the time
limit, and one whose body nobody wants is dropped. -/
def answer (n : Nat) (s : Session ℓ) : Answer × Session ℓ :=
  let method := s.exchange.observer.visit.method
  let s := (s.takeHead.2).tick n
  match s.takeHead with
  | (.head h, s) =>
    match s.stream.reader with
    | .bodiless =>
      if h.status = .switchingProtocols then (.upgraded h, s.tick n)
      else (.response (framed method (some 0) h) [] false, s)
    | _ =>
      let h := framed method none h
      if hasBody method h.status then
        let (body, broken, s) := readBody n n s
        (delivered h body broken, if broken then s.drop.tick n else s)
      else (.response h [] false, s.drop.tick n)
  | (_, s) => (.response (framed method (some 0) timedOut) [] false, s.drop.tick n)

def closeField : String × Bytes := ("connection", Utf8.ofString "close")

def Answer.bytes (chunks lasting : Bool) : Answer → Bytes
  | .upgraded h => h.bytes
  | .response h body broken =>
    let named :=
      if lasting then h else { h with headers := h.headers.add closeField.1 closeField.2 }
    if (h.headers.get? "transfer-encoding").isNone then named.bytes ++ body
    else if chunks then
      named.bytes ++ Http.chunk body ++ (if broken then [] else Http.lastChunk)
    else { named with headers := named.headers.remove "transfer-encoding" }.bytes ++ body

def Answer.keeps : Answer → Bool
  | .response _ _ broken => !broken
  | .upgraded _ => false

def badRequest : Answer := .response ⟨.badRequest, {}⟩ [] false

end AccessTrail.Server
