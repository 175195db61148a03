import AccessTrail.Fault
import AccessTrail.Net.Loose

namespace AccessTrail.Net

inductive Endpoint
  | address : SocketAddress → Endpoint
  | host : (name : List Char) → (port : UInt16) → Endpoint
  deriving DecidableEq

namespace Endpoint

def noPort : Fault := .fixed .invalidInput "invalid socket address"
def badPort : Fault := .fixed .invalidInput "invalid port value"

def port? (cs : List Char) : Option UInt16 :=
  let ds := match cs with
    | '+' :: ds => ds
    | ds => ds
  let n := ds.foldl (fun n c => n * 10 + (c.toNat - '0'.toNat)) 0
  if !ds.isEmpty && ds.all (·.isDigit) && n < 65536 then some (UInt16.ofNat n) else none

def parse (s : String) : Except Fault Endpoint :=
  match SocketAddress.parse? s with
  | some a => .ok (.address a)
  | none =>
    let back := s.toList.reverse
    match back.dropWhile (· != ':') with
    | [] => .error noPort
    | _ :: name =>
      match port? (back.takeWhile (· != ':')).reverse with
      | some port => .ok (.host name.reverse port)
      | none => .error badPort

def localName : List Char := "localhost".toList

def isHostChar (c : Char) : Bool := c.isAlphanum || c == '-' || c == '_'

def isLabel (cs : List Char) : Bool := !cs.isEmpty && cs.length ≤ 63 && cs.all isHostChar

def isHostName (name : List Char) : Bool :=
  let bare := if name.getLast? = some '.' then name.dropLast else name
  !name.isEmpty && bare.length ≤ 253 && name.head? != some '-' &&
    (bare.isEmpty || (Text.pieces '.' bare).all isLabel)

def lookupFailed (reason : String) : Fault :=
  .custom .uncategorized ("failed to lookup address information: " ++ reason)

def nobodyToAsk : Fault := lookupFailed "Temporary failure in name resolution"
def unknownName : Fault := lookupFailed "Name or service not known"

def resolveName (name : List Char) (port : UInt16) : Except Fault SocketAddress :=
  match Ipv4.ofLoose? name, readIpv6 name with
  | some ip, _ => .ok (.v4 ip port)
  | none, some (ip, []) => .ok (.v6 ip 0 port)
  | none, some (ip, rest) =>
    match readScope rest with
    | (scope, []) => .ok (.v6 ip scope port)
    | _ => .error unknownName
  | none, none =>
    if name.map Char.toLower = localName then .ok (.v4 ⟨127, 0, 0, 1⟩ port)
    else .error (if isHostName name then nobodyToAsk else unknownName)

def resolve : Endpoint → Except Fault SocketAddress
  | .address a => .ok a
  | .host name port => resolveName name port

end Endpoint

def Ipv4.isOwn (ip : Ipv4) : Bool := ip.a = 127 || ip = ⟨0, 0, 0, 0⟩

def Ip.isOwn : Ip → Bool
  | .v4 ip => ip.isOwn
  | .v6 ip =>
    match ip.mapped? with
    | some tail => tail.isOwn
    | none => ip.groups = [0, 0, 0, 0, 0, 0, 0, 0] || ip.groups = [0, 0, 0, 0, 0, 0, 0, 1]

def firstFreePort : UInt16 := 1024

def notPermitted : Fault := .system .permissionDenied 13 "Permission denied"
def notOwn : Fault := .system .addrNotAvailable 99 "Cannot assign requested address"

def SocketAddress.unscoped : SocketAddress → SocketAddress
  | .v6 ip _ port => .v6 ip 0 port
  | a => a

def SocketAddress.bound (a : SocketAddress) : Except Fault SocketAddress :=
  if a.port ≠ 0 && a.port < firstFreePort then .error notPermitted
  else if a.ip.isOwn then .ok a.unscoped
  else .error notOwn

end AccessTrail.Net
