import AccessTrail.Text.Hex

/-!
Internet addresses: their standard text, and the reader of socket addresses. A dotted octet has no
leading zero; a group of zeros longer than one is compressed, the first of the longest; mapped
addresses keep their dotted tail.
-/

namespace AccessTrail.Net

structure Ipv4 where
  a : UInt8
  b : UInt8
  c : UInt8
  d : UInt8
  deriving DecidableEq

structure Ipv6 where
  groups : List UInt16
  eight : groups.length = 8
  deriving DecidableEq

inductive Ip
  | v4 : Ipv4 → Ip
  | v6 : Ipv6 → Ip
  deriving DecidableEq

inductive SocketAddress
  | v4 : Ipv4 → UInt16 → SocketAddress
  | v6 : Ipv6 → (scope : UInt32) → UInt16 → SocketAddress
  deriving DecidableEq

def SocketAddress.ip : SocketAddress → Ip
  | .v4 ip _ => .v4 ip
  | .v6 ip _ _ => .v6 ip

def SocketAddress.port : SocketAddress → UInt16
  | .v4 _ port => port
  | .v6 _ _ port => port

def decimal (n : Nat) : List Char := Nat.toDigits 10 n

def Ipv4.chars (ip : Ipv4) : List Char :=
  decimal ip.a.toNat ++ '.' :: (decimal ip.b.toNat ++ '.' ::
    (decimal ip.c.toNat ++ '.' :: decimal ip.d.toNat))

def joinGroups : List UInt16 → List Char
  | [] => []
  | [g] => Hex.digits g.toNat
  | g :: gs => Hex.digits g.toNat ++ ':' :: joinGroups gs

def zeroRun : List UInt16 → Nat × Nat
  | [] => (0, 0)
  | g :: gs =>
    let here := ((g :: gs).takeWhile (· == 0)).length
    let later := zeroRun gs
    if later.2 ≤ here then (0, here) else (later.1 + 1, later.2)

def Ipv6.mapped? (ip : Ipv6) : Option Ipv4 :=
  match ip.groups with
  | [0, 0, 0, 0, 0, 0xFFFF, hi, lo] =>
    some ⟨(hi / 256).toUInt8, (hi % 256).toUInt8, (lo / 256).toUInt8, (lo % 256).toUInt8⟩
  | _ => none

def Ipv6.chars (ip : Ipv6) : List Char :=
  match ip.mapped? with
  | some tail => "::ffff:".toList ++ tail.chars
  | none =>
    let (start, len) := zeroRun ip.groups
    if 1 < len then
      joinGroups (ip.groups.take start) ++ ':' :: ':' :: joinGroups (ip.groups.drop (start + len))
    else joinGroups ip.groups

def Ip.chars : Ip → List Char
  | .v4 ip => ip.chars
  | .v6 ip => ip.chars

def SocketAddress.chars : SocketAddress → List Char
  | .v4 ip port => ip.chars ++ ':' :: decimal port.toNat
  | .v6 ip scope port =>
    '[' :: (ip.chars ++ (if scope = 0 then [] else '%' :: decimal scope.toNat) ++
      ']' :: ':' :: decimal port.toNat)

def Ip.text (ip : Ip) : String := String.ofList ip.chars

def SocketAddress.text (a : SocketAddress) : String := String.ofList a.chars

def digitBelow (radix : Nat) (c : Char) : Option Nat :=
  (Hex.value? c).filter (· < radix)

def readNumber (radix bound : Nat) (cs : List Char) : Option (Nat × List Char × List Char) :=
  let ds := cs.takeWhile fun c => (digitBelow radix c).isSome
  let n := (ds.filterMap (digitBelow radix)).foldl (fun n d => n * radix + d) 0
  if ds ≠ [] ∧ n < bound then some (n, ds, cs.dropWhile fun c => (digitBelow radix c).isSome)
  else none

def readOctet (cs : List Char) : Option (UInt8 × List Char) :=
  match readNumber 10 256 cs with
  | some (n, ds, rest) =>
    if ds.length ≤ 3 ∧ (ds.head? ≠ some '0' ∨ ds.length = 1) then some (UInt8.ofNat n, rest)
    else none
  | none => none

def readChar (c : Char) : List Char → Option (List Char)
  | x :: rest => if x = c then some rest else none
  | [] => none

def readIpv4 (cs : List Char) : Option (Ipv4 × List Char) := do
  let (a, cs) ← readOctet cs
  let (b, cs) ← readOctet (← readChar '.' cs)
  let (c, cs) ← readOctet (← readChar '.' cs)
  let (d, cs) ← readOctet (← readChar '.' cs)
  return (⟨a, b, c, d⟩, cs)

def readGroup (cs : List Char) : Option (UInt16 × List Char) :=
  match readNumber 16 65536 cs with
  | some (n, ds, rest) => if ds.length ≤ 4 then some (UInt16.ofNat n, rest) else none
  | none => none

def Ipv4.groups (ip : Ipv4) : List UInt16 :=
  [ip.a.toUInt16 * 256 + ip.b.toUInt16, ip.c.toUInt16 * 256 + ip.d.toUInt16]

structure Groups where
  values : List UInt16
  dotted : Bool
  rest : List Char

def readGroups : (room : Nat) → (first : Bool) → List Char → Groups
  | 0, _, cs => ⟨[], false, cs⟩
  | room + 1, first, cs =>
    match if first then some cs else readChar ':' cs with
    | none => ⟨[], false, cs⟩
    | some body =>
      match if room = 0 then none else readIpv4 body with
      | some (quad, rest) => ⟨quad.groups, true, rest⟩
      | none =>
        match readGroup body with
        | some (g, rest) =>
          let more := readGroups room false rest
          ⟨g :: more.values, more.dotted, more.rest⟩
        | none => ⟨[], false, cs⟩

/-- Two colons stand for at least one group of zeros; a dotted quad cannot come before them. -/
def readIpv6 (cs : List Char) : Option (Ipv6 × List Char) :=
  let front := readGroups 8 true cs
  if full : front.values.length = 8 then some (⟨front.values, full⟩, front.rest)
  else if front.dotted then none
  else
    match front.rest with
    | ':' :: ':' :: rest =>
      let back := readGroups (7 - front.values.length) true rest
      let zeros := List.replicate (8 - front.values.length - back.values.length) 0
      if full : (front.values ++ zeros ++ back.values).length = 8 then
        some (⟨front.values ++ zeros ++ back.values, full⟩, back.rest)
      else none
    | _ => none

def readPort (cs : List Char) : Option (UInt16 × List Char) := do
  let (n, _, rest) ← readNumber 10 65536 (← readChar ':' cs)
  return (UInt16.ofNat n, rest)

def readScope (cs : List Char) : UInt32 × List Char :=
  match readChar '%' cs with
  | some body =>
    match readNumber 10 4294967296 body with
    | some (n, _, rest) => (UInt32.ofNat n, rest)
    | none => (0, cs)
  | none => (0, cs)

def readSocketV4 (cs : List Char) : Option (SocketAddress × List Char) := do
  let (ip, cs) ← readIpv4 cs
  let (port, cs) ← readPort cs
  return (.v4 ip port, cs)

def readSocketV6 (cs : List Char) : Option (SocketAddress × List Char) := do
  let (ip, cs) ← readIpv6 (← readChar '[' cs)
  let (scope, cs) := readScope cs
  let (port, cs) ← readPort (← readChar ']' cs)
  return (.v6 ip scope port, cs)

def SocketAddress.ofChars? (cs : List Char) : Option SocketAddress :=
  match readSocketV4 cs <|> readSocketV6 cs with
  | some (a, []) => some a
  | _ => none

def SocketAddress.parse? (s : String) : Option SocketAddress := ofChars? s.toList

end AccessTrail.Net
