import AccessTrail.Proofs.Text.Quoted
import AccessTrail.Proofs.Visible

namespace AccessTrail.Net

/-- Text that does not begin with a hexadecimal digit or a dot, so that a number before it is over.
-/
def Stops (rest : List Char) : Prop := ∀ c ∈ rest.head?, Hex.value? c = none ∧ c ≠ '.'

namespace Stops

variable {rest : List Char}

theorem nil : Stops [] := nofun

theorem cons {c : Char} (hc : Hex.value? c = none ∧ c ≠ '.') (rest : List Char) :
    Stops (c :: rest) := by
  intro c' hc'
  cases hc'
  exact hc

theorem not_digit (h : Stops rest) (radix : Nat) {c : Char} (hc : c ∈ rest.head?) :
    digitBelow radix c = none := by
  rw [digitBelow, (h c hc).1]
  rfl

end Stops

theorem digitBelow_digitChar {radix d : Nat} (hradix : radix ≤ 16) (hd : d < radix) :
    digitBelow radix (Nat.digitChar d) = some d := by
  have hvalue := Hex.value?_digit d
  rw [Hex.digit, Nat.mod_eq_of_lt (by omega)] at hvalue
  rw [digitBelow, hvalue]
  simp [hd]

section Digits

variable {radix : Nat} (h : 1 < radix) (h' : radix ≤ 16)
include h h'

theorem isSome_digitBelow_of_mem {n : Nat} {c : Char} (hc : c ∈ Nat.toDigits radix n) :
    (digitBelow radix c).isSome = true := by
  obtain ⟨d, hd, rfl⟩ := Text.mem_toDigits h hc
  rw [digitBelow_digitChar h' hd]
  rfl

theorem foldl_toDigits (n : Nat) :
    ((Nat.toDigits radix n).filterMap (digitBelow radix)).foldl (fun n d => n * radix + d) 0 =
      n := by
  induction n using Nat.strongRecOn with
  | ind n ih =>
    rw [Nat.toDigits_eq_if h]
    split
    next hn => simp [digitBelow_digitChar h' hn]
    next hn =>
      rw [List.filterMap_append, List.foldl_append, ih _ (Nat.div_lt_self (by omega) h)]
      have hmod : n % radix < radix := Nat.mod_lt _ (by omega)
      simp only [List.filterMap_cons, digitBelow_digitChar h' hmod, List.filterMap_nil,
        List.foldl_cons, List.foldl_nil]
      exact Nat.div_add_mod' n radix

theorem readNumber_toDigits {n bound : Nat} (hn : n < bound) {rest : List Char}
    (hrest : ∀ c ∈ rest.head?, digitBelow radix c = none) :
    readNumber radix bound (Nat.toDigits radix n ++ rest) =
      some (n, Nat.toDigits radix n, rest) := by
  have hdigits : ∀ c ∈ Nat.toDigits radix n, (digitBelow radix c).isSome = true :=
    fun _ => isSome_digitBelow_of_mem h h'
  have htake : rest.takeWhile (fun c => (digitBelow radix c).isSome) = [] := by
    cases rest with
    | nil => rfl
    | cons c rest => simp [hrest c rfl]
  have hdrop : rest.dropWhile (fun c => (digitBelow radix c).isSome) = rest := by
    cases rest with
    | nil => rfl
    | cons c rest => simp [hrest c rfl]
  rw [readNumber, List.takeWhile_append_of_pos hdigits, List.dropWhile_append_of_pos hdigits, htake,
    hdrop, List.append_nil, foldl_toDigits h h']
  exact if_pos ⟨Nat.toDigits_ne_nil, hn⟩

end Digits

theorem readNumber_eq_none (radix bound : Nat) {rest : List Char} (h : Stops rest) :
    readNumber radix bound rest = none := by
  have htake : rest.takeWhile (fun c => (digitBelow radix c).isSome) = [] := by
    cases rest with
    | nil => rfl
    | cons c rest => simp [h.not_digit radix (c := c) rfl]
  rw [readNumber, htake]
  exact if_neg (by simp)

theorem readOctet_decimal (b : UInt8) {rest : List Char}
    (h : ∀ c ∈ rest.head?, digitBelow 10 c = none) :
    readOctet (decimal b.toNat ++ rest) = some (b, rest) := by
  have hread := readNumber_toDigits (by decide : 1 < 10) (by decide) b.toNat_lt h
  have hshape : ∀ n < 256, (decimal n).length ≤ 3 ∧
      ((decimal n).head? ≠ some '0' ∨ (decimal n).length = 1) := by decide +kernel
  rw [readOctet, decimal, hread]
  refine (if_pos (hshape _ b.toNat_lt)).trans ?_
  rw [UInt8.ofNat_toNat]

theorem readGroup_hex (g : UInt16) {rest : List Char} (h : Stops rest) :
    readGroup (Hex.digits g.toNat ++ rest) = some (g, rest) := by
  have hread :=
    readNumber_toDigits (by decide : 1 < 16) (by decide) g.toNat_lt fun _ => h.not_digit 16
  have hlength : (Nat.toDigits 16 g.toNat).length ≤ 4 :=
    (Nat.length_toDigits_le_iff (by decide) (by decide)).2 g.toNat_lt
  rw [readGroup, Hex.digits, hread]
  refine (if_pos hlength).trans ?_
  rw [UInt16.ofNat_toNat]

theorem readPort_decimal (port : UInt16) :
    readPort (':' :: decimal port.toNat) = some (port, []) := by
  have hend : ∀ c ∈ ([] : List Char).head?, digitBelow 10 c = none := nofun
  have hread := readNumber_toDigits (by decide : 1 < 10) (by decide) port.toNat_lt hend
  rw [List.append_nil] at hread
  change (readNumber 10 65536 (decimal port.toNat)).bind
    (fun r => some (UInt16.ofNat r.1, r.2.2)) = _
  rw [decimal, hread, Option.bind_some, UInt16.ofNat_toNat]

theorem readScope_decimal (scope : UInt32) (rest : List Char) :
    readScope ((if scope = 0 then [] else '%' :: decimal scope.toNat) ++ ']' :: rest) =
      (scope, ']' :: rest) := by
  have hend : ∀ c ∈ (']' :: rest).head?, digitBelow 10 c = none := by
    intro c hc
    cases hc
    rfl
  have hread := readNumber_toDigits (by decide : 1 < 10) (by decide) scope.toNat_lt hend
  split
  next hzero =>
    rw [hzero]
    rfl
  next =>
    have hpercent : readChar '%' ('%' :: decimal scope.toNat ++ ']' :: rest) =
        some (decimal scope.toNat ++ ']' :: rest) := rfl
    rw [readScope, hpercent]
    simp only
    rw [decimal, hread]
    simp

end AccessTrail.Net
