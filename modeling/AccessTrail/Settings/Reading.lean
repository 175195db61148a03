import AccessTrail.Settings.Mismatch

namespace AccessTrail.Settings

open Toml (Value Fields)

def readText (expected : String) : Value → Except Mismatch String
  | .text s => .ok s
  | v => .error (.type v expected)

def readSeconds : Value → Except Mismatch UInt64
  | .integer i => if 0 ≤ i then .ok (UInt64.ofNat i.toNat) else .error (.range i "u64")
  | v => .error (.type v "u64")

def readName (s : String) : Except Mismatch Destination :=
  match Destination.ofName? s with
  | some d => .ok d
  | none => .error (.unknownVariant s)

def readDestination : Value → Except Mismatch Destination
  | .text s => readName s
  | .table _ [] => .error (.variantCount false)
  | .table _ [(k, v)] => do
    let d ← readName k
    match v with
    | .table _ [] | .array _ [] => return d
    | v => throw (.fullVariant v)
  | .table _ (_ :: _ :: _) => .error (.variantCount true)
  | _ => .error .noVariant

def readSection {α : Type} (name : String) (keys : List String)
    (set : α → String → Value → Except Mismatch α) (initial : α) : Value → Except Mismatch α
  | .table _ fs => fs.foldlM (fun a (k, v) => set a k v) initial
  | .array _ vs => (keys.zip vs).foldlM (fun a (k, v) => set a k v) initial
  | .moment => .ok initial
  | v => .error (.type v ("struct " ++ name))

def Listener.set (l : Listener) (k : String) (v : Value) : Except Mismatch Listener :=
  match k with
  | "bind_address" => return { l with bindAddress := ← readText "a string" v }
  | _ => return l

def AccessLog.set (a : AccessLog) (k : String) (v : Value) : Except Mismatch AccessLog :=
  match k with
  | "destination" => return { a with destination := ← readDestination v }
  | "path" => return { a with path := some (← readText "path string" v) }
  | _ => return a

def Timeouts.set (t : Timeouts) (k : String) (v : Value) : Except Mismatch Timeouts :=
  match k with
  | "request_secs" => return { t with requestSecs := ← readSeconds v }
  | _ => return t

def Observability.set (o : Observability) (k : String) (v : Value) :
    Except Mismatch Observability :=
  match k with
  | "log_level" => return { o with logLevel := ← readText "a string" v }
  | _ => return o

def set (s : Settings) (k : String) (v : Value) : Except Mismatch Settings :=
  match k with
  | "listener" =>
    return { s with
      listener := ← readSection "ListenerConfig" ["bind_address"] Listener.set {} v }
  | "access_log" =>
    return { s with
      accessLog := ← readSection "AccessLogConfig" ["destination", "path"] AccessLog.set {} v }
  | "timeouts" =>
    return { s with
      timeouts := ← readSection "TimeoutConfig" ["request_secs"] Timeouts.set {} v }
  | "observability" =>
    return { s with
      observability := ← readSection "ObservabilityConfig" ["log_level"] Observability.set {} v }
  | _ => return s

def ofFields (fs : Fields) : Except Mismatch Settings :=
  fs.foldlM (fun s (k, v) => s.set k v) {}

end AccessTrail.Settings
