namespace AccessTrail

namespace Settings

structure Listener where
  bindAddress : String := "0.0.0.0:8080"
  deriving DecidableEq

inductive Destination
  | stdout
  | stderr
  | file
  deriving DecidableEq

def Destination.name : Destination → String
  | stdout => "stdout"
  | stderr => "stderr"
  | file => "file"

def Destination.all : List Destination := [.stdout, .stderr, .file]

def Destination.ofName? (s : String) : Option Destination := all.find? (·.name == s)

structure AccessLog where
  destination : Destination := .stdout
  path : Option String := none
  deriving DecidableEq

structure Timeouts where
  requestSecs : UInt64 := 30
  deriving DecidableEq

structure Observability where
  logLevel : String := "info"
  deriving DecidableEq

end Settings

structure Settings where
  listener : Settings.Listener := {}
  accessLog : Settings.AccessLog := {}
  timeouts : Settings.Timeouts := {}
  observability : Settings.Observability := {}
  deriving DecidableEq

end AccessTrail
