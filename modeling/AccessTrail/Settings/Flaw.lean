import AccessTrail.Net.Address
import AccessTrail.Settings.Basic
import AccessTrail.Text.Literal

namespace AccessTrail.Settings

inductive Flaw
  | badAddress : String → Flaw
  | pathMissing
  | zeroTimeout
  deriving DecidableEq

namespace Flaw

def text : Flaw → String
  | badAddress a => "invalid bind address " ++ Text.literal a
  | pathMissing => "access_log.path is required when destination is \"file\""
  | zeroTimeout => "timeouts.request_secs must be greater than zero"

def label : Flaw → String
  | badAddress a => "InvalidBindAddress(" ++ Text.literal a ++ ")"
  | pathMissing => "MissingLogPath"
  | zeroTimeout => "ZeroRequestTimeout"

def summary (flaws : List Flaw) : String :=
  "Validation failed: " ++ ", ".intercalate (flaws.map text)

end Flaw

def Listener.flaws (l : Listener) : List Flaw :=
  if (Net.SocketAddress.parse? l.bindAddress).isSome then [] else [.badAddress l.bindAddress]

def AccessLog.flaws (a : AccessLog) : List Flaw :=
  if a.destination = .file ∧ a.path = none then [.pathMissing] else []

def Timeouts.flaws (t : Timeouts) : List Flaw := if t.requestSecs = 0 then [.zeroTimeout] else []

end AccessTrail.Settings

namespace AccessTrail

def Settings.flaws (s : Settings) : List Settings.Flaw :=
  s.listener.flaws ++ s.accessLog.flaws ++ s.timeouts.flaws

end AccessTrail
