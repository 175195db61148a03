import AccessTrail.CommandLine
import AccessTrail.Filter
import AccessTrail.Log.Target
import AccessTrail.Net.Endpoint
import AccessTrail.Settings.Loading

namespace AccessTrail

def Fault.detail (f : Fault) : String :=
  match f.wording with
  | .ofKind => "Kind(" ++ f.kind.name ++ ")"
  | .custom s => "Custom \x7b kind: " ++ f.kind.name ++ ", error: " ++ Text.literal s ++ " \x7d"
  | .fixed s => "Error \x7b kind: " ++ f.kind.name ++ ", message: " ++ Text.literal s ++ " \x7d"
  | .system code s =>
    "Os \x7b code: " ++ toString code ++ ", kind: " ++ f.kind.name ++ ", message: " ++
      Text.literal s ++ " \x7d"

def Settings.LoadError.detail : Settings.LoadError → String
  | .unreadable f => "Io(" ++ f.detail ++ ")"
  | .malformed => "Parse(" ++ (Settings.LoadError.malformed).problem ++ ")"
  | .mismatch m => "Parse(" ++ m.text ++ ")"
  | .flawed fs => "Validation([" ++ ", ".intercalate (fs.map (·.label)) ++ "])"

def Settings.Destination.label : Settings.Destination → String
  | .stdout => "Stdout"
  | .stderr => "Stderr"
  | .file => "File"

namespace Server

def version : String := "0.1.0"

structure Launch where
  settings : Settings
  filter : Filter

namespace Launch

def of (o : CommandLine.Options) (loaded : Settings) (filter : Filter) : Launch where
  settings :=
    { loaded with listener := { bindAddress := o.listen.getD loaded.listener.bindAddress } }
  filter := filter

def opening (l : Launch) : List Notice :=
  [.starting version,
   .configured l.settings.listener.bindAddress l.settings.accessLog.destination.label
     l.settings.timeouts.requestSecs]

def bound (address : String) : List Notice := [.listening address, .serving address]

def ending : List Notice := [.stopReceived, .served, .stopped]

def shown (l : Launch) (ns : List Notice) : List Notice := ns.filter l.filter.shows

def address (l : Launch) : Except Fault Net.SocketAddress := do
  (← Net.Endpoint.parse l.settings.listener.bindAddress).resolve

end Launch

inductive Trouble
  | settings : Settings.LoadError → Trouble
  | filter
  | log : Fault → Trouble
  | address : Fault → Trouble

namespace Trouble

def report : Trouble → String
  | settings e => "Error: " ++ e.detail
  | filter => "filter directive: " ++ Filter.Flaw.torn.text
  | log f | address f => "Error: " ++ f.detail

def exitCode : Trouble → UInt32
  | filter => 101
  | settings _ | log _ | address _ => 1

end Trouble

structure Ready where
  launch : Launch
  address : Net.SocketAddress
  outlet : Outlet

structure Start where
  remarks : List String := []
  notices : List Notice := []
  files : Files
  result : Except Trouble Ready

def settings (o : CommandLine.Options) (fs : Files) : Except Settings.LoadError Settings :=
  match o.config with
  | some path => Settings.load fs path
  | none => .ok {}

def Launch.start (l : Launch) (remarks : List String) (fs : Files) : Start :=
  let notices := l.shown l.opening
  match LogTarget.openFor l.settings.accessLog fs with
  | .error f => { remarks, notices, files := fs, result := .error (.log f) }
  | .ok (target, files) =>
    match l.address.bind (·.bound) with
    | .error f => { remarks, notices, files, result := .error (.address f) }
    | .ok address => { remarks, notices, files, result := .ok ⟨l, address, { target, files }⟩ }

def start (o : CommandLine.Options) (environment : Option String) (fs : Files) : Start :=
  match settings o fs with
  | .error e => { files := fs, result := .error (.settings e) }
  | .ok s =>
    let c := Filter.choose environment s.observability.logLevel
    match c.filter with
    | none => { remarks := c.remarks, files := fs, result := .error .filter }
    | some f => (Launch.of o s f).start c.remarks fs

end Server

end AccessTrail
