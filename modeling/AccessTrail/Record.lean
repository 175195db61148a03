import AccessTrail.Text.Quoted
import AccessTrail.Net.Host
import AccessTrail.Http.Request

namespace AccessTrail

structure Duration where
  secs : UInt64 := 0
  nanos : UInt32 := 0
  deriving DecidableEq

def Duration.millis (d : Duration) : Nat := d.secs.toNat * 1000 + d.nanos.toNat / 1000000

structure Entry where
  status : UInt16
  elapsed : Duration := {}
  bytes : UInt64 := 0
  ratio : String := "-"
  message : String := ""
  deriving DecidableEq

structure Record where
  stamp : String
  visit : Http.Visit
  entry : Entry
  deriving DecidableEq

namespace Record

def number (n : Nat) : List Char := Nat.toDigits 10 n

def chars (r : Record) : List Char :=
  r.stamp.toList ++
    ' ' :: (Net.hostChars r.visit.peer.toList ++
    ' ' :: (r.visit.method.chars ++
    ' ' :: '"' :: (r.visit.uri.chars ++
    '"' :: ' ' :: (number r.entry.status.toNat ++
    ' ' :: (number r.entry.elapsed.millis ++
    ' ' :: (number r.entry.bytes.toNat ++
    ' ' :: (r.entry.ratio.toList ++
    ' ' :: (Text.quoteBytes r.visit.userAgent ++
    ' ' :: (Text.quote r.entry.message ++ ['\n'])))))))))

def line (r : Record) : String := String.ofList r.chars

def bytes (r : Record) : Bytes := Utf8.encode r.chars

structure Fields where
  stamp : List Char
  host : List Char
  method : List Char
  uri : List Char
  status : Nat
  millis : Nat
  bytes : Nat
  ratio : List Char
  userAgent : Bytes
  message : Bytes
  deriving DecidableEq

def fields (r : Record) : Fields where
  stamp := r.stamp.toList
  host := Net.hostChars r.visit.peer.toList
  method := r.visit.method.chars
  uri := r.visit.uri.chars
  status := r.entry.status.toNat
  millis := r.entry.elapsed.millis
  bytes := r.entry.bytes.toNat
  ratio := r.entry.ratio.toList
  userAgent := r.visit.userAgent
  message := Utf8.ofString r.entry.message

def word? (cs : List Char) : Option (List Char × List Char) :=
  match cs.dropWhile (· != ' ') with
  | _ :: rest => some (cs.takeWhile (· != ' '), rest)
  | [] => none

def number? (cs : List Char) : Option Nat :=
  if !cs.isEmpty && cs.all (·.isDigit) then
    some (cs.foldl (fun n c => n * 10 + (c.toNat - '0'.toNat)) 0)
  else none

def unwrap? (cs : List Char) : Option (List Char) :=
  match cs with
  | '"' :: rest => if rest.getLast? = some '"' then some rest.dropLast else none
  | _ => none

def quoted? : List Char → Option (Bytes × List Char)
  | '"' :: rest => Text.readQuoted rest
  | _ => none

def read? (cs : List Char) : Option Fields := do
  let (stamp, cs) ← word? cs
  let (host, cs) ← word? cs
  let (method, cs) ← word? cs
  let (uri, cs) ← word? cs
  let (status, cs) ← word? cs
  let (millis, cs) ← word? cs
  let (bytes, cs) ← word? cs
  let (ratio, cs) ← word? cs
  let (userAgent, cs) ← quoted? cs
  match cs with
  | ' ' :: cs =>
    match ← quoted? cs with
    | (message, ['\n']) =>
      return { stamp, host, method, ratio, userAgent, message, uri := ← unwrap? uri,
               status := ← number? status, millis := ← number? millis, bytes := ← number? bytes }
    | _ => none
  | _ => none

end Record

end AccessTrail
