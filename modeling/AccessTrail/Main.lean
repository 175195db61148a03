import Std.Async.Select
import Std.Async.Signal
import Std.Async.TCP
import Std.Time
import AccessTrail.Handler.Demo
import AccessTrail.Log.Memory
import AccessTrail.Server.Answer
import AccessTrail.Server.Startup

namespace AccessTrail.Server

open Std.Async

def systemFault (code : UInt32) (details : String) : Fault :=
  .ofCode code.toInt32.toInt.natAbs details

def faultOf (e : IO.Error) : Fault :=
  match e with
  | .alreadyExists _ code details | .otherError code details | .resourceBusy code details
  | .resourceVanished code details | .unsupportedOperation code details
  | .hardwareFault code details | .unsatisfiedConstraints code details
  | .illegalOperation code details | .protocolError code details
  | .timeExpired code details | .interrupted _ code details | .noFileOrDirectory _ code details
  | .invalidArgument _ code details | .permissionDenied _ code details
  | .resourceExhausted _ code details | .inappropriateType _ code details
  | .noSuchThing _ code details => systemFault code details
  | .unexpectedEof => ⟨.unexpectedEof, .ofKind⟩
  | .userError details => .custom .other details

def stamp : IO String := return (← Std.Time.DateTime.now).toISO8601String

structure Hall where
  launch : Launch
  log : IO.FS.Stream

def tell (l : Launch) (ns : List Notice) : IO Unit := do
  for n in l.shown ns do
    IO.eprintln (n.line (← stamp) "")

def toSystem : Net.SocketAddress → Std.Net.SocketAddress
  | .v4 ip port => .v4 ⟨.ofParts ip.a ip.b ip.c ip.d, port⟩
  | .v6 ip _ port => .v6 ⟨⟨⟨ip.groups.toArray, by simp [ip.eight]⟩⟩, port⟩

def ofSystem : Std.Net.SocketAddress → Net.SocketAddress
  | .v4 ⟨⟨os⟩, port⟩ => .v4 ⟨os[0], os[1], os[2], os[3]⟩ port
  | .v6 ⟨⟨gs⟩, port⟩ => .v6 ⟨gs.toList, by simp⟩ 0 port

def readLimit : UInt64 := 65536
def headLimit : Nat := 1048576
def patience : Nat := 1000000

def elapsedSince (entered : Nat) : IO Duration := do
  let nanos := (← IO.monoNanosNow) - entered
  return ⟨UInt64.ofNat (nanos / 1000000000), UInt32.ofNat (nanos % 1000000000)⟩

def sendBytes (client : TCP.Socket.Client) (bs : Bytes) : Async Unit :=
  if bs.isEmpty then pure () else client.send ⟨bs.toArray⟩

partial def echoOn (client : TCP.Socket.Client) (incoming : Bytes) : Async Bytes := do
  match ← client.recv? readLimit with
  | some bs =>
    client.send bs
    echoOn client (incoming ++ bs.toList)
  | none => return incoming

def serveCall (hall : Hall) (client : TCP.Socket.Client) (peer : Net.SocketAddress)
    (c : Http.Call) : Async Bool := do
  let entered ← IO.monoNanosNow
  let run (incoming : Bytes) (now : Clock) :=
    answer patience
      (Session.start Demo.handler (received peer incoming c.request) ({} : MemoryLog) now)
  let a := (run [] { stamp := "" }).1
  sendBytes client (a.bytes c.chunks c.lasting)
  let incoming ← match a with
    | .upgraded _ =>
      sendBytes client c.rest
      echoOn client c.rest
    | .response .. => pure []
  let (_, s) := run incoming { stamp := ← stamp, elapsed := ← elapsedSince entered }
  hall.log.write ⟨s.exchange.log.bytes.toArray⟩
  hall.log.flush
  tell hall.launch s.exchange.notices
  return c.lasting && a.keeps

partial def converse (hall : Hall) (client : TCP.Socket.Client) (peer : Net.SocketAddress)
    (got : Bytes) : Async Unit := do
  match Http.Call.read got with
  | .call c =>
    if ← serveCall hall client peer c then converse hall client peer c.rest
    else client.shutdown
  | .short =>
    if headLimit < got.length then client.shutdown
    else
      match ← client.recv? readLimit with
      | some bs => converse hall client peer (got ++ bs.toList)
      | none => client.shutdown
  | .bad =>
    sendBytes client (badRequest.bytes true false)
    client.shutdown

def welcome (hall : Hall) (client : TCP.Socket.Client) : Async Unit := do
  converse hall client (ofSystem (← client.getPeerName)) []

partial def acceptAll (hall : Hall) (listener : TCP.Socket.Server) (stop : Signal.Waiter)
    (talks : List (AsyncTask Unit)) : Async (List (AsyncTask Unit)) := do
  let next ← Selectable.one #[
    .case listener.acceptSelector fun client => pure (some client),
    .case stop.selector fun _ => pure none]
  match next with
  | some client =>
    let talk ← async (welcome hall client)
    acceptAll hall listener stop (talk :: talks)
  | none => return talks

def await (talk : AsyncTask Unit) : IO Unit := do
  try talk.block catch _ => pure ()

def openLog (a : Settings.AccessLog) : IO IO.FS.Stream := do
  match a.destination, a.path with
  | .stdout, _ => IO.getStdout
  | .stderr, _ => IO.getStderr
  | .file, some path => return .ofHandle (← IO.FS.Handle.mk path .append)
  | .file, none => throw (.userError LogTarget.pathNotSet.text)

def listen (address : Net.SocketAddress) : IO TCP.Socket.Server := do
  let listener ← TCP.Socket.Server.mk
  listener.bind (toSystem address)
  listener.listen 1024
  return listener

def giveUp (t : Trouble) : IO UInt32 := do
  IO.eprintln t.report
  return t.exitCode

def loadFrom (path : Option String) : IO (Except Settings.LoadError Settings) := do
  match path with
  | none => return .ok {}
  | some path =>
    match ← (IO.FS.readBinFile path).toBaseIO with
    | .ok bs => return Settings.ofBytes bs.toList
    | .error e => return .error (.unreadable (faultOf e))

def serveUntilStopped (l : Launch) (log : IO.FS.Stream) (address : Net.SocketAddress) :
    IO UInt32 := do
  try
    let listener ← listen address
    tell l (Launch.bound (ofSystem (← listener.getSockName)).text)
    let stop ← Signal.Waiter.mk .sigint false
    let talks ← (acceptAll ⟨l, log⟩ listener stop []).block
    tell l [.stopReceived]
    talks.forM await
    tell l [.served, .stopped]
    return 0
  catch e => giveUp (.address (faultOf e))

def launch (o : CommandLine.Options) : IO UInt32 := do
  match ← loadFrom o.config with
  | .error e => giveUp (.settings e)
  | .ok settings =>
    let c := Filter.choose (← IO.getEnv "RUST_LOG") settings.observability.logLevel
    c.remarks.forM IO.eprintln
    match c.filter with
    | none => giveUp .filter
    | some filter =>
      let l := Launch.of o settings filter
      tell l l.opening
      match ← (openLog l.settings.accessLog).toBaseIO, l.address with
      | .error e, _ => giveUp (.log (faultOf e))
      | .ok _, .error f => giveUp (.address f)
      | .ok log, .ok address => serveUntilStopped l log address

end AccessTrail.Server

def main (args : List String) : IO UInt32 := do
  match AccessTrail.CommandLine.parse args with
  | .help =>
    IO.print AccessTrail.CommandLine.helpText
    return 0
  | .misuse =>
    IO.eprintln AccessTrail.CommandLine.usage
    return 2
  | .run o => AccessTrail.Server.launch o
