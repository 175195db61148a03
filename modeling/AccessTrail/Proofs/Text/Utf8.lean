import AccessTrail.Text.Utf8
import Mathlib.Data.List.TakeWhile
import Mathlib.Tactic

namespace AccessTrail.Utf8

def Piece.bytes : Piece → Bytes
  | .char c => String.utf8EncodeChar c
  | .stray bs => bs

theorem toNat_ofNat {n : Nat} (h : n.isValidChar) : (Char.ofNat n).toNat = n := by
  rw [Char.ofNat, dif_pos h]
  rfl

theorem ofNat_eq_of_toNat {n : Nat} {b : UInt8} (h : n = b.toNat) : UInt8.ofNat n = b := by
  rw [h, UInt8.ofNat_toNat]

theorem utf8EncodeChar_ofNat {n : Nat} (h : n.isValidChar) :
    String.utf8EncodeChar (Char.ofNat n) =
      if n < 0x80 then [UInt8.ofNat n]
      else if n < 0x800 then [UInt8.ofNat (n / 64 + 0xC0), UInt8.ofNat (n % 64 + 0x80)]
      else if n < 0x10000 then
        [UInt8.ofNat (n / 4096 + 0xE0), UInt8.ofNat (n / 64 % 64 + 0x80),
          UInt8.ofNat (n % 64 + 0x80)]
      else
        [UInt8.ofNat (n / 262144 + 0xF0), UInt8.ofNat (n / 4096 % 64 + 0x80),
          UInt8.ofNat (n / 64 % 64 + 0x80), UInt8.ofNat (n % 64 + 0x80)] := by
  have hn : n < 0x110000 := by
    rcases h with h | h <;> omega
  simp only [String.utf8EncodeChar, Char.toNat_val, toNat_ofNat h, ← Nat.lt_succ_iff]
  split_ifs
  · rfl
  · rw [Nat.mod_eq_of_lt (by omega : n / 64 < 0x20)]
  · rw [Nat.mod_eq_of_lt (by omega : n / 4096 < 0x10)]
  · rw [Nat.mod_eq_of_lt (by omega : n / 262144 < 0x08)]

theorem utf8EncodeChar_ascii {c : Char} (h : c.toNat < 0x80) :
    String.utf8EncodeChar c = [UInt8.ofNat c.toNat] := by
  have hc := utf8EncodeChar_ofNat (.inl (by omega) : c.toNat.isValidChar)
  rwa [Char.ofNat_toNat, if_pos h] at hc

theorem isTail_iff (b : UInt8) : isTail b = true ↔ 0x80 ≤ b.toNat ∧ b.toNat < 0xC0 := by
  simp [isTail, UInt8.le_iff_toNat_le, UInt8.lt_iff_toNat_lt]

theorem lead_bounds {b : UInt8} {l : Lead} (h : lead b = some l) :
    0x80 ≤ l.low.toNat ∧ l.high.toNat < 0xC0 ∧
    ((l.tails = 1 ∧ 0xC2 ≤ b.toNat ∧ b.toNat < 0xE0) ∨
    (l.tails = 2 ∧ 0xE0 ≤ b.toNat ∧ b.toNat < 0xF0 ∧
      (b.toNat = 0xE0 → 0xA0 ≤ l.low.toNat) ∧ (b.toNat = 0xED → l.high.toNat < 0xA0)) ∨
    (l.tails = 3 ∧ 0xF0 ≤ b.toNat ∧ b.toNat < 0xF5 ∧
      (b.toNat = 0xF0 → 0x90 ≤ l.low.toNat) ∧ (b.toNat = 0xF4 → l.high.toNat < 0x90))) := by
  simp only [lead, UInt8.lt_iff_toNat_lt, ← UInt8.toNat_inj, UInt8.reduceToNat] at h
  split_ifs at h <;> cases h <;> simp <;> omega

theorem utf8EncodeChar_scalar {b s : UInt8} {l : Lead} {tails : Bytes} (hl : lead b = some l)
    (hs : l.low ≤ s ∧ s ≤ l.high) (htails : ∀ t ∈ tails, isTail t = true)
    (hlen : tails.length + 1 = l.tails) :
    String.utf8EncodeChar (Char.ofNat (scalar b (s :: tails))) = b :: s :: tails := by
  simp only [UInt8.le_iff_toNat_le] at hs
  -- The code point is written out by the number of tails; the bounds keep out surrogates and
  -- overlong forms.
  obtain ⟨hlow, hhigh, ⟨h, hb⟩ | ⟨h, hb⟩ | ⟨h, hb⟩⟩ := lead_bounds hl <;> rw [h] at hlen
  · obtain rfl := List.length_eq_zero_iff.1 (Nat.succ.inj hlen)
    have hn : scalar b [s] = b.toNat % 32 * 64 + s.toNat % 64 := rfl
    rw [hn, utf8EncodeChar_ofNat (.inl (by omega)), if_neg (by omega), if_pos (by omega),
      ofNat_eq_of_toNat (b := b) (by omega), ofNat_eq_of_toNat (b := s) (by omega)]
  · obtain ⟨t, rfl⟩ := List.length_eq_one_iff.1 (Nat.succ.inj hlen)
    have ht := (isTail_iff t).1 (htails t (by simp))
    have hn : scalar b [s, t] = (b.toNat % 16 * 64 + s.toNat % 64) * 64 + t.toNat % 64 := rfl
    have hv : (scalar b [s, t]).isValidChar := by
      rw [hn, Nat.isValidChar]
      omega
    rw [utf8EncodeChar_ofNat hv, hn, if_neg (by omega), if_neg (by omega), if_pos (by omega),
      ofNat_eq_of_toNat (b := b) (by omega), ofNat_eq_of_toNat (b := s) (by omega),
      ofNat_eq_of_toNat (b := t) (by omega)]
  · obtain ⟨t, u, rfl⟩ := List.length_eq_two.1 (Nat.succ.inj hlen)
    have ht := (isTail_iff t).1 (htails t (by simp))
    have hu := (isTail_iff u).1 (htails u (by simp))
    have hn : scalar b [s, t, u] =
      ((b.toNat % 8 * 64 + s.toNat % 64) * 64 + t.toNat % 64) * 64 + u.toNat % 64 := rfl
    have hv : (scalar b [s, t, u]).isValidChar := by
      rw [hn, Nat.isValidChar]
      omega
    rw [utf8EncodeChar_ofNat hv, hn, if_neg (by omega), if_neg (by omega), if_neg (by omega),
      ofNat_eq_of_toNat (b := b) (by omega), ofNat_eq_of_toNat (b := s) (by omega),
      ofNat_eq_of_toNat (b := t) (by omega), ofNat_eq_of_toNat (b := u) (by omega)]

theorem bytes_next (b : UInt8) (rest : Bytes) :
    (next b rest).1.bytes ++ (next b rest).2 = b :: rest := by
  unfold next
  split
  next h =>
    have hb : b.toNat < 0x80 := UInt8.lt_iff_toNat_lt.1 h
    rw [Piece.bytes, utf8EncodeChar_ofNat (.inl (by omega)), if_pos hb, UInt8.ofNat_toNat]
    rfl
  next =>
    split
    next l s more hl =>
      simp only
      split
      next hs =>
        have hmore : (more.take (l.tails - 1)).takeWhile isTail ++
            more.drop ((more.take (l.tails - 1)).takeWhile isTail).length = more :=
          List.prefix_iff_eq_append.1 ((List.takeWhile_prefix _).trans (List.take_prefix _ _))
        have htails : ∀ t ∈ (more.take (l.tails - 1)).takeWhile isTail, isTail t = true :=
          List.all_eq_true.1 List.all_takeWhile
        split
        next hlen =>
          simp only [Piece.bytes]
          rw [utf8EncodeChar_scalar hl hs htails hlen, List.cons_append, List.cons_append, hmore]
        next =>
          simp only [Piece.bytes]
          rw [List.cons_append, List.cons_append, hmore]
      next => rfl
    next => rfl

theorem flatMap_bytes_pieces (bs : Bytes) : (pieces bs).flatMap Piece.bytes = bs := by
  induction bs using pieces.induct with
  | case1 => simp [pieces]
  | case2 b rest ih => rw [pieces, List.flatMap_cons, ih, bytes_next]

theorem ofString_injective : Function.Injective ofString := by
  intro s t h
  apply String.toByteArray_inj.1
  have hs : ∀ u : String, u.toByteArray = (ofString u).toByteArray := by
    intro u
    rw [← String.utf8Encode_toList]
    rfl
  rw [hs, hs, h]

theorem next_scalar {b s : UInt8} {l : Lead} {tails : Bytes} (hl : lead b = some l)
    (hs : l.low ≤ s ∧ s ≤ l.high) (htails : ∀ t ∈ tails, isTail t = true)
    (hlen : tails.length + 1 = l.tails) (more : Bytes) :
    next b (s :: (tails ++ more)) = (.char (Char.ofNat (scalar b (s :: tails))), more) := by
  have hb : ¬b < 0x80 := by
    have := lead_bounds hl
    simp only [UInt8.lt_iff_toNat_lt, UInt8.reduceToNat]
    omega
  have hcut : ((tails ++ more).take (l.tails - 1)).takeWhile isTail = tails := by
    rw [List.take_left' (by omega)]
    exact List.takeWhile_eq_self_iff.2 htails
  simp only [next, hb, if_false, hl, hs, and_self, if_true, hcut, hlen, List.drop_left]

theorem toNat_byte {n : Nat} (h : n < 0x100) : (UInt8.ofNat n).toNat = n := Nat.mod_eq_of_lt h

theorem isTail_payload (n : Nat) : isTail (UInt8.ofNat (n % 64 + 0x80)) = true := by
  rw [isTail_iff, toNat_byte (by omega)]
  omega

theorem exists_lead {n : Nat} (h : 0xC2 ≤ n) (h' : n < 0xF5) :
    ∃ l, lead (UInt8.ofNat n) = some l ∧
      l.tails = (if n < 0xE0 then 1 else if n < 0xF0 then 2 else 3) ∧
      l.low.toNat = (if n = 0xE0 then 0xA0 else if n = 0xF0 then 0x90 else 0x80) ∧
      l.high.toNat = (if n = 0xED then 0x9F else if n = 0xF4 then 0x8F else 0xBF) := by
  simp only [lead, UInt8.lt_iff_toNat_lt, ← UInt8.toNat_inj, UInt8.reduceToNat,
    toNat_byte (by omega : n < 0x100)]
  split_ifs <;> simp <;> omega

theorem exists_utf8EncodeChar {c : Char} (h : 0x80 ≤ c.toNat) :
    ∃ b s l tails, String.utf8EncodeChar c = b :: s :: tails ∧ lead b = some l ∧
      (l.low ≤ s ∧ s ≤ l.high) ∧ (∀ t ∈ tails, isTail t = true) ∧ tails.length + 1 = l.tails := by
  have hv : c.toNat.isValidChar := c.valid
  have hc := utf8EncodeChar_ofNat hv
  rw [Char.ofNat_toNat, if_neg (by omega)] at hc
  unfold Nat.isValidChar at hv
  generalize c.toNat = n at *
  simp only [UInt8.le_iff_toNat_le]
  split_ifs at hc
  · obtain ⟨l, hl, htails, hlow, hhigh⟩ :=
      exists_lead (by omega : 0xC2 ≤ n / 64 + 0xC0) (by omega)
    refine ⟨_, _, l, [], hc, hl, ?_, by simp, by rw [htails, if_pos (by omega)]; rfl⟩
    rw [hlow, hhigh, toNat_byte (by omega)]
    constructor <;> split_ifs <;> omega
  · obtain ⟨l, hl, htails, hlow, hhigh⟩ :=
      exists_lead (by omega : 0xC2 ≤ n / 4096 + 0xE0) (by omega)
    refine ⟨_, _, l, _, hc, hl, ?_, ?_, by rw [htails, if_neg (by omega), if_pos (by omega)]; rfl⟩
    · rw [hlow, hhigh, toNat_byte (by omega)]
      constructor <;> split_ifs <;> omega
    · simp only [List.mem_singleton, forall_eq, isTail_payload]
  · obtain ⟨l, hl, htails, hlow, hhigh⟩ :=
      exists_lead (by omega : 0xC2 ≤ n / 262144 + 0xF0) (by omega)
    refine ⟨_, _, l, _, hc, hl, ?_, ?_, by rw [htails, if_neg (by omega), if_neg (by omega)]; rfl⟩
    · rw [hlow, hhigh, toNat_byte (by omega)]
      constructor <;> split_ifs <;> omega
    · simp only [List.mem_cons, List.not_mem_nil, or_false, forall_eq_or_imp, forall_eq,
        isTail_payload, and_self]

theorem utf8EncodeChar_injective : Function.Injective String.utf8EncodeChar := by
  intro c d h
  have hs : ofString (String.singleton c) = ofString (String.singleton d) := by
    simp only [ofString, String.toList_singleton, encode, List.flatMap_singleton, h]
  simpa using congrArg String.toList (ofString_injective hs)

theorem next_utf8EncodeChar (c : Char) (more : Bytes) :
    ∃ b rest, String.utf8EncodeChar c ++ more = b :: rest ∧ next b rest = (.char c, more) := by
  by_cases h : c.toNat < 0x80
  · refine ⟨_, _, by rw [utf8EncodeChar_ascii h]; rfl, ?_⟩
    have hb : UInt8.ofNat c.toNat < 0x80 := by
      rw [UInt8.lt_iff_toNat_lt, toNat_byte (by omega)]
      exact h
    unfold next
    rw [if_pos hb, toNat_byte (by omega), Char.ofNat_toNat]
    rfl
  · obtain ⟨b, s, l, tails, hc, hl, hs, htails, hlen⟩ := exists_utf8EncodeChar (not_lt.1 h)
    have hd : Char.ofNat (scalar b (s :: tails)) = c := by
      apply utf8EncodeChar_injective
      rw [utf8EncodeChar_scalar hl hs htails hlen, hc]
    refine ⟨b, s :: (tails ++ more), by rw [hc]; rfl, ?_⟩
    rw [next_scalar hl hs htails hlen, hd]

theorem pieces_encode (cs : List Char) : pieces (encode cs) = cs.map .char := by
  induction cs with
  | nil => simp [encode, pieces]
  | cons c cs ih =>
    obtain ⟨b, rest, hc, hn⟩ := next_utf8EncodeChar c (encode cs)
    have he : encode (c :: cs) = b :: rest := hc
    rw [he, pieces, hn, ih, List.map_cons]

theorem lossy_encode (cs : List Char) : lossy (encode cs) = cs := by
  rw [lossy, pieces_encode, List.map_map]
  exact List.map_id cs

end AccessTrail.Utf8
