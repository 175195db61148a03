import AccessTrail.Net.Address

namespace AccessTrail.Net

def splitLastColon : List Char → Option (List Char × List Char)
  | [] => none
  | c :: cs =>
    match splitLastColon cs with
    | some (before, after) => some (c :: before, after)
    | none => if c = ':' then some ([], cs) else none

def hostChars (peer : List Char) : List Char :=
  match SocketAddress.ofChars? peer with
  | some a => a.ip.chars
  | none =>
    match splitLastColon peer with
    | some (host, port) =>
      if !host.contains ':' && port.all (fun c => '0' ≤ c ∧ c ≤ '9') then host else peer
    | none => peer

def host (peer : String) : String := String.ofList (hostChars peer.toList)

end AccessTrail.Net
