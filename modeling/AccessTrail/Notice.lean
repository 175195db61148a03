import AccessTrail.Http.Token
import AccessTrail.Http.Uri
import AccessTrail.Text.Literal

namespace AccessTrail

inductive Level
  | trace
  | debug
  | info
  | warn
  | error
  deriving DecidableEq

def Level.name : Level → String
  | trace => "TRACE"
  | debug => "DEBUG"
  | info => "INFO"
  | warn => "WARN"
  | error => "ERROR"

inductive Notice
  | recorded : Http.Method → Http.Uri → (status : UInt16) → (bytes : UInt64) → Notice
  | recordLost : (reason : String) → Notice
  | replyLost : (reason : String) → Notice
  | headAgain : Http.Status → Notice
  | handlerCrashed : (message : String) → Notice
  | clientGone : (reason : String) → Notice
  | upgradeFailed : (reason : String) → Notice
  | echoDone : (bytes : Nat) → Notice
  | stopReceived
  | starting : (version : String) → Notice
  | configured : (address destination : String) → (seconds : UInt64) → Notice
  | listening : (address : String) → Notice
  | serving : (address : String) → Notice
  | served
  | stopped
  deriving DecidableEq

namespace Notice

def level : Notice → Level
  | recorded .. | replyLost _ | headAgain _ | clientGone _ | echoDone _ => .debug
  | recordLost _ | upgradeFailed _ => .warn
  | handlerCrashed _ => .error
  | stopReceived | starting _ | configured .. | listening _ | serving _ | served | stopped => .info

def message : Notice → String
  | recorded .. => "access record"
  | recordLost _ => "failed to write access record"
  | replyLost _ => "failed to send error response"
  | headAgain _ => "superfluous write_header call"
  | handlerCrashed _ => "request handler failed"
  | clientGone _ => "client went away"
  | upgradeFailed _ => "connection upgrade failed"
  | echoDone _ => "echo session finished"
  | stopReceived => "Shutdown signal received"
  | starting version => "request-logger v" ++ version ++ " starting"
  | configured .. => "Configuration loaded"
  | listening _ => "Listening for connections"
  | serving _ => "HTTP server starting"
  | served => "HTTP server stopped"
  | stopped => "Shutdown complete"

def target : Notice → String
  | recorded .. | recordLost _ | replyLost _ => "request_logger::http::responder"
  | headAgain _ => "request_logger::http::hyper_sink"
  | handlerCrashed _ => "request_logger::http::logger"
  | clientGone _ | upgradeFailed _ | echoDone _ => "request_logger::http::handlers"
  | stopReceived => "request_logger::lifecycle::shutdown"
  | serving _ | served => "request_logger::http::server"
  | starting _ | configured .. | listening _ | stopped => "request_logger"

def fields (task : String) : Notice → List (String × String)
  | recorded method uri status bytes =>
    [("method", method.text), ("uri", uri.text), ("status", toString status),
     ("bytes", toString bytes)]
  | recordLost reason | replyLost reason | clientGone reason | upgradeFailed reason =>
    [("error", reason)]
  | headAgain status => [("status", status.text)]
  | handlerCrashed message =>
    [("error", "task " ++ task ++ " panicked with message " ++ Text.literal message)]
  | echoDone bytes => [("bytes", toString bytes)]
  | configured address destination seconds =>
    [("bind_address", address), ("access_log", destination),
     ("request_timeout_secs", toString seconds)]
  | listening address | serving address => [("address", address)]
  | stopReceived | starting _ | served | stopped => []

def line (stamp task : String) (n : Notice) : String :=
  let level := n.level.name
  stamp ++ (if level.length < 5 then "  " else " ") ++ level ++ " " ++ n.target ++ ": " ++
    n.message ++ String.join ((n.fields task).map fun (k, v) => " " ++ k ++ "=" ++ v)

end Notice

end AccessTrail
