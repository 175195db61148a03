import AccessTrail.Proofs.Text.Quoted

/-!
Where bytes can be cut. A run of tails ends before a byte that is none, so bytes that do not begin
with a tail are taken for the same pieces whatever stands before them, and quoted as they would be
alone.
-/

namespace AccessTrail.Utf8

def Starts (bs : Bytes) : Prop := ∀ b ∈ bs.head?, b < 0x80 ∨ 0xBF < b

namespace Starts

variable {t : Bytes}

theorem isTail_eq_false (h : Starts t) {b : UInt8} (hb : b ∈ t.head?) : isTail b = false := by
  have hout := h b hb
  simp only [UInt8.lt_iff_toNat_lt, UInt8.reduceToNat] at hout
  rw [Bool.eq_false_iff, Ne, isTail_iff]
  omega

theorem take (h : Starts t) (n : Nat) : Starts (t.take n) := by
  cases n with
  | zero => exact nofun
  | succ n =>
    cases t with
    | nil => exact nofun
    | cons b t => exact h

theorem takeWhile_isTail (h : Starts t) : t.takeWhile isTail = [] := by
  cases t with
  | nil => rfl
  | cons b t => exact List.takeWhile_cons_of_neg (by simp [h.isTail_eq_false (b := b) rfl])

theorem takeWhile_append (h : Starts t) (s : Bytes) (n : Nat) :
    ((s ++ t).take n).takeWhile isTail = (s.take n).takeWhile isTail := by
  rw [List.take_append, List.takeWhile_append, (h.take _).takeWhile_isTail, List.append_nil]
  split
  next hall => exact ((List.takeWhile_prefix _).eq_of_length hall).symm
  next => rfl

theorem not_within (h : Starts t) {b s : UInt8} {l : Lead} (hl : lead b = some l)
    (hs : s ∈ t.head?) :
    ¬(l.low ≤ s ∧ s ≤ l.high) := by
  obtain ⟨hlow, hhigh, -⟩ := lead_bounds hl
  have hout := h s hs
  simp only [UInt8.lt_iff_toNat_lt, UInt8.reduceToNat] at hout
  simp only [UInt8.le_iff_toNat_le]
  omega

theorem next_append (h : Starts t) (b : UInt8) (rest : Bytes) :
    next b (rest ++ t) = ((next b rest).1, (next b rest).2 ++ t) := by
  by_cases hb : b < 0x80
  · simp only [next, if_pos hb]
  cases hl : lead b with
  | none => simp only [next, if_neg hb, hl]
  | some l =>
    cases rest with
    | nil =>
      cases t with
      | nil => rw [List.append_nil, List.append_nil]
      | cons s t =>
        have hout := h.not_within hl (s := s) rfl
        simp only [List.nil_append, next, if_neg hb, hl, if_neg hout]
    | cons s more =>
      have hdrop : ((more.take (l.tails - 1)).takeWhile isTail).length ≤ more.length :=
        ((List.takeWhile_prefix _).trans (List.take_prefix _ _)).length_le
      simp only [List.cons_append, next, if_neg hb, hl, h.takeWhile_append,
        List.drop_append_of_le_length hdrop]
      split
      · split <;> rfl
      · rfl

theorem pieces_append (h : Starts t) (s : Bytes) : pieces (s ++ t) = pieces s ++ pieces t := by
  induction s using pieces.induct with
  | case1 => simp [pieces]
  | case2 b rest ih =>
    rw [List.cons_append, pieces, pieces, h.next_append, ih]
    rfl

end Starts

theorem starts_encode (cs : List Char) : Starts (encode cs) := by
  cases cs with
  | nil => exact nofun
  | cons c cs =>
    intro b hb
    rw [encode, List.flatMap_cons] at hb
    simp only [UInt8.lt_iff_toNat_lt, UInt8.reduceToNat]
    by_cases hc : c.toNat < 0x80
    · rw [utf8EncodeChar_ascii hc] at hb
      cases hb
      rw [toNat_byte (by omega)]
      exact .inl hc
    · obtain ⟨b', s, l, tails, he, hl, -⟩ := exists_utf8EncodeChar (not_lt.1 hc)
      rw [he] at hb
      cases hb
      have := lead_bounds hl
      omega

theorem ofString_append (s t : String) : ofString (s ++ t) = ofString s ++ ofString t := by
  rw [ofString, String.toList_append, encode, List.flatMap_append]
  rfl

end AccessTrail.Utf8

namespace AccessTrail.Text

def quoteBody (bs : Bytes) : List Char := (quoteBytes bs).tail.dropLast

theorem quoteBody_eq_escape (bs : Bytes) : quoteBody bs = escape bs := List.dropLast_concat

theorem escape_append {t : Bytes} (h : Utf8.Starts t) (s : Bytes) :
    escape (s ++ t) = escape s ++ escape t := by
  rw [escape, h.pieces_append, List.flatMap_append]
  rfl

theorem escape_ofString (s : String) : escape (Utf8.ofString s) = s.toList.flatMap escapeChar := by
  rw [escape, Utf8.ofString, Utf8.pieces_encode, List.flatMap_map]
  rfl

/-- Bytes are quoted part by part, wherever they are cut before a byte that continues no character.
So text is quoted character by character, and after ill-formed bytes just as it is alone. -/
theorem quoteBody_append :
    (∀ s t : Bytes, Utf8.Starts t → quoteBody (s ++ t) = quoteBody s ++ quoteBody t) ∧
      (∀ (s : Bytes) (u : String),
        quoteBody (s ++ Utf8.ofString u) = quoteBody s ++ quoteBody (Utf8.ofString u) ∧
          quoteBody (Utf8.ofString u) = u.toList.flatMap escapeChar) ∧
      ∀ u v : String, quoteBody (Utf8.ofString (u ++ v)) =
        quoteBody (Utf8.ofString u) ++ quoteBody (Utf8.ofString v) := by
  simp only [quoteBody_eq_escape]
  refine ⟨fun s t h => escape_append h s, fun s u => ⟨?_, escape_ofString u⟩, fun u v => ?_⟩
  · exact escape_append (Utf8.starts_encode u.toList) s
  · rw [Utf8.ofString_append]
    exact escape_append (Utf8.starts_encode v.toList) _

theorem quoteBody_append_of_truncated :
    Utf8.Starts [0xC3, 0xA9, 0x80] ∧
      quoteBody ([0xE2, 0x82] ++ [0xC3, 0xA9, 0x80]) =
        quoteBody [0xE2, 0x82] ++ quoteBody [0xC3, 0xA9, 0x80] := by
  have h : Utf8.Starts [0xC3, 0xA9, 0x80] := by simp [Utf8.Starts]
  exact ⟨h, quoteBody_append.1 _ _ h⟩

end AccessTrail.Text
