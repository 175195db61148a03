import AccessTrail.Net.Address
import AccessTrail.Text.Pieces

namespace AccessTrail.Net

def looseNumber? (cs : List Char) : Option Nat :=
  let (radix, ds) := match cs with
    | '0' :: 'x' :: ds | '0' :: 'X' :: ds => (16, ds)
    | '0' :: ds => (8, '0' :: ds)
    | ds => (10, ds)
  match readNumber radix 4294967296 ds with
  | some (n, _, []) => some n
  | _ => none

def fill : (room : Nat) → List Nat → Option Nat
  | 0, _ | _, [] => none
  | room + 1, [last] => if last < Nat.pow 256 (room + 1) then some last else none
  | room + 1, n :: ns => if n < 256 then (fill room ns).map (n * Nat.pow 256 room + ·) else none

def Ipv4.ofNat (n : Nat) : Ipv4 :=
  ⟨UInt8.ofNat (n / 16777216), UInt8.ofNat (n / 65536), UInt8.ofNat (n / 256), UInt8.ofNat n⟩

def Ipv4.ofLoose? (cs : List Char) : Option Ipv4 := do
  let ns ← (Text.pieces '.' cs).mapM looseNumber?
  return .ofNat (← fill 4 ns)

example : Ipv4.ofLoose? "0x7f.1".toList = some ⟨127, 0, 0, 1⟩ := by decide +kernel
example : Ipv4.ofLoose? "0177.0.1".toList = some ⟨127, 0, 0, 1⟩ := by decide +kernel
example : Ipv4.ofLoose? "1.2.3.4.5".toList = none := by decide +kernel

end AccessTrail.Net
