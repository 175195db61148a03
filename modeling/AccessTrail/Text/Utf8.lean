/-!
UTF-8 inside arbitrary bytes. `pieces` cuts a byte string into characters and ill-formed runs; a run
is as long as the longest beginning of some character, so replacement decoding shows one mark for
it.
-/

namespace AccessTrail

abbrev Bytes := List UInt8

namespace Utf8

inductive Piece
  | char : Char → Piece
  | stray : Bytes → Piece
  deriving DecidableEq

structure Lead where
  tails : Nat
  low : UInt8
  high : UInt8
  deriving DecidableEq

def isTail (b : UInt8) : Bool := 0x80 ≤ b && b < 0xC0

/-- Overlong forms, surrogates and code points past the last are excluded by the bounds. -/
def lead (b : UInt8) : Option Lead :=
  if b < 0xC2 then none
  else if b < 0xE0 then some ⟨1, 0x80, 0xBF⟩
  else if b = 0xE0 then some ⟨2, 0xA0, 0xBF⟩
  else if b = 0xED then some ⟨2, 0x80, 0x9F⟩
  else if b < 0xF0 then some ⟨2, 0x80, 0xBF⟩
  else if b = 0xF0 then some ⟨3, 0x90, 0xBF⟩
  else if b < 0xF4 then some ⟨3, 0x80, 0xBF⟩
  else if b = 0xF4 then some ⟨3, 0x80, 0x8F⟩
  else none

def scalar (b : UInt8) (tails : Bytes) : Nat :=
  let payload := b.toNat % Nat.pow 2 (6 - tails.length)
  tails.foldl (fun n t => n * 64 + t.toNat % 64) payload

def next (b : UInt8) (rest : Bytes) : Piece × Bytes :=
  if b < 0x80 then (.char (Char.ofNat b.toNat), rest)
  else
    match lead b, rest with
    | some l, s :: more =>
      if l.low ≤ s ∧ s ≤ l.high then
        let tails := (more.take (l.tails - 1)).takeWhile isTail
        if tails.length + 1 = l.tails then
          (.char (Char.ofNat (scalar b (s :: tails))), more.drop tails.length)
        else (.stray (b :: s :: tails), more.drop tails.length)
      else (.stray [b], rest)
    | _, _ => (.stray [b], rest)

theorem next_length_le (b : UInt8) (rest : Bytes) : (next b rest).2.length ≤ rest.length := by
  unfold next
  split
  · simp
  · split
    · simp only []
      split
      · split <;> simp <;> omega
      · simp
    · simp

def pieces : Bytes → List Piece
  | [] => []
  | b :: rest => (next b rest).1 :: pieces (next b rest).2
termination_by bs => bs.length
decreasing_by exact Nat.lt_succ_of_le (next_length_le b rest)

def encode (cs : List Char) : Bytes := cs.flatMap String.utf8EncodeChar

def ofString (s : String) : Bytes := encode s.toList

def text? (bs : Bytes) : Option (List Char) :=
  (pieces bs).mapM fun
    | .char c => some c
    | .stray _ => none

def lossy (bs : Bytes) : List Char :=
  (pieces bs).map fun
    | .char c => c
    | .stray _ => '\uFFFD'

end Utf8

end AccessTrail
