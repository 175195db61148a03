import AccessTrail.Net.Address
import AccessTrail.Http.Headers
import AccessTrail.Http.Uri

namespace AccessTrail.Http

inductive Handover
  | broken : (reason : String) → Handover
  | opened : (incoming : Bytes) → Handover
  deriving DecidableEq

structure Request where
  method : Method := Method.get
  uri : Uri := Uri.root
  headers : Headers := {}
  peer : Option Net.SocketAddress := none
  upgrade : Option Handover := none
  deriving DecidableEq

/-- Taken when the request enters, before a handler runs. -/
structure Visit where
  peer : String := ""
  method : Method := Method.get
  uri : Uri := Uri.root
  userAgent : Bytes := []
  deriving DecidableEq

def Request.visit (r : Request) : Visit where
  peer := (r.peer.map (·.text)).getD ""
  method := r.method
  uri := r.uri
  userAgent := (r.headers.get? "user-agent").getD []

end AccessTrail.Http
