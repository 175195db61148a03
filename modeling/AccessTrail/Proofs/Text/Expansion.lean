import AccessTrail.Proofs.Text.Boundary
import AccessTrail.Proofs.Text.Delimited

namespace AccessTrail.Text

def size (cs : List Char) : Nat := (Utf8.encode cs).length

@[simp] theorem size_nil : size [] = 0 := rfl

@[simp] theorem size_append (cs ds : List Char) : size (cs ++ ds) = size cs + size ds := by
  simp [size, Utf8.encode]

@[simp] theorem size_cons (c : Char) (cs : List Char) :
    size (c :: cs) = (String.utf8EncodeChar c).length + size cs := by
  simp [size, Utf8.encode]

theorem size_of_ascii {cs : List Char} (h : ∀ c ∈ cs, c.toNat < 0x80) : size cs = cs.length := by
  induction cs with
  | nil => rfl
  | cons c cs ih =>
    rw [List.forall_mem_cons] at h
    rw [size_cons, Utf8.utf8EncodeChar_ascii h.1, ih h.2, List.length_cons, Nat.add_comm]
    rfl

theorem size_quoteBytes (bs : Bytes) : size (quoteBytes bs) = size (escape bs) + 2 := by
  have hq : (String.utf8EncodeChar '"').length = 1 := by
    rw [Utf8.utf8EncodeChar_ascii (by decide)]
    rfl
  rw [quoteBytes, size_cons, size_append, size_cons, size_nil, hq, Nat.add_comm]

theorem length_utf8EncodeChar (c : Char) :
    (String.utf8EncodeChar c).length =
      if c.toNat < 0x80 then 1 else if c.toNat < 0x800 then 2
      else if c.toNat < 0x10000 then 3 else 4 := by
  have hc := Utf8.utf8EncodeChar_ofNat (show c.toNat.isValidChar from c.valid)
  rw [Char.ofNat_toNat] at hc
  rw [hc]
  split_ifs <;> rfl

structure Plain (c : Char) : Prop where
  printable : isPrintable c = true
  not_quote : c ≠ '"'
  not_backslash : c ≠ '\\'

theorem of_shortEscape {c e : Char} (h : shortEscape c = some e) :
    e.toNat < 0x80 ∧ (c.toNat < 0x20 ∨ c = '"' ∨ c = '\\') := by
  rw [← Char.toNat_inj, ← Char.toNat_inj]
  unfold shortEscape at h
  split at h <;> cases h <;> next hc => exact ⟨by decide, by rw [hc]; decide⟩

theorem Plain.escapeChar {c : Char} (h : Plain c) : escapeChar c = [c] := by
  have hcontrol := isControl_eq_false_iff.1 (seen_of_isPrintable h.printable).isControl
  have hshort : shortEscape c = none := by
    rw [Option.eq_none_iff_forall_ne_some]
    intro e he
    obtain ⟨-, hlow | hq | hb⟩ := of_shortEscape he
    · exact absurd hcontrol.1 hlow.not_ge
    · exact h.not_quote hq
    · exact h.not_backslash hb
  have hraw : (decide (c.toNat < 0x20) || c.toNat == 0x7F) = false := by
    simp only [Bool.or_eq_false_iff, decide_eq_false_iff_not, beq_eq_false_iff_ne]
    omega
  simp only [Text.escapeChar, hshort, hraw, h.printable, if_true, Bool.false_eq_true, if_false]

/-- How bytes may be written: in no fewer, and in at most four for one. -/
structure Expands (bs : Bytes) (cs : List Char) : Prop where
  le : bs.length ≤ size cs
  le_four : size cs ≤ 4 * bs.length
  plain : size cs = bs.length → Utf8.encode cs = bs ∧ ∀ c ∈ cs, Plain c

namespace Expands

theorem nil : Expands [] [] := ⟨le_rfl, le_rfl, fun _ => ⟨rfl, nofun⟩⟩

variable {bs bs' : Bytes} {cs cs' : List Char}

theorem append (h : Expands bs cs) (h' : Expands bs' cs') : Expands (bs ++ bs') (cs ++ cs') where
  le := by
    rw [size_append, List.length_append]
    exact Nat.add_le_add h.le h'.le
  le_four := by
    rw [size_append, List.length_append, Nat.mul_add]
    exact Nat.add_le_add h.le_four h'.le_four
  plain := by
    intro heq
    rw [size_append, List.length_append] at heq
    -- Neither part is shorter than its bytes, so neither can make up for the other.
    have hle := h.le
    have hle' := h'.le
    obtain ⟨henc, hplain⟩ := h.plain (by omega)
    obtain ⟨henc', hplain'⟩ := h'.plain (by omega)
    refine ⟨?_, List.forall_mem_append.2 ⟨hplain, hplain'⟩⟩
    rw [Utf8.encode, List.flatMap_append]
    exact congrArg₂ (· ++ ·) henc henc'

theorem flatMap {α : Type} {f : α → Bytes} {g : α → List Char} (h : ∀ a, Expands (f a) (g a))
    (as : List α) :
    Expands (as.flatMap f) (as.flatMap g) := by
  induction as with
  | nil => exact nil
  | cons a as ih => exact (h a).append ih

theorem of_plain {c : Char} (h : Plain c) : Expands (String.utf8EncodeChar c) [c] where
  le := by simp
  le_four := by
    rw [size_cons, size_nil]
    omega
  plain _ := ⟨List.flatMap_singleton .., List.forall_mem_singleton.2 h⟩

theorem of_ascii (hcs : ∀ c ∈ cs, c.toNat < 0x80) (hlt : bs.length < cs.length)
    (hle : cs.length ≤ 4 * bs.length) :
    Expands bs cs := by
  rw [← size_of_ascii hcs] at hlt hle
  exact ⟨hlt.le, hle, fun heq => absurd heq hlt.ne'⟩

theorem hex {e : Char} {width n : Nat} (he : e.toNat < 0x80) (hlt : bs.length < width + 2)
    (hle : width + 2 ≤ 4 * bs.length) : Expands bs ('\\' :: e :: Hex.padded width n) := by
  have hdigits : ∀ c ∈ Hex.padded width n, c.toNat < 0x80 := by
    intro c hc
    obtain ⟨d, hd, rfl⟩ := Hex.mem_padded hc
    exact (by decide : ∀ d < 16, (Nat.digitChar d).toNat < 0x80) d hd
  have hlength : ('\\' :: e :: Hex.padded width n).length = width + 2 := by
    rw [List.length_cons, List.length_cons, Hex.length_padded]
  rw [← hlength] at hlt hle
  exact of_ascii (List.forall_mem_cons.2 ⟨by decide, List.forall_mem_cons.2 ⟨he, hdigits⟩⟩) hlt hle

end Expands

theorem expands_escapeChar (c : Char) : Expands (String.utf8EncodeChar c) (escapeChar c) := by
  have hlength := length_utf8EncodeChar c
  unfold escapeChar
  split
  next e he =>
    obtain ⟨b, -, hb⟩ := shortByte_of_shortEscape he
    obtain ⟨hascii, -⟩ := of_shortEscape he
    have hshort : Expands [b] ('\\' :: e :: Hex.padded 0 0) :=
      .hex hascii (show 1 < 0 + 2 by decide) (show 0 + 2 ≤ 4 * 1 by decide)
    rwa [hb]
  next hnone =>
    obtain ⟨hq, hb⟩ := ne_of_shortEscape hnone
    split
    next hcontrol =>
      simp only [Bool.or_eq_true, decide_eq_true_eq, beq_iff_eq] at hcontrol
      rw [if_pos (by omega)] at hlength
      exact .hex (by decide) (by omega) (by omega)
    next hcontrol =>
      simp only [Bool.or_eq_true, decide_eq_true_eq, beq_iff_eq, not_or] at hcontrol
      split
      next hprint => exact .of_plain ⟨hprint, hq, hb⟩
      next hprint =>
        -- All of ASCII has been dealt with, so the character takes two bytes at least.
        have hc : ¬c.toNat < 0x7F :=
          fun hlt => hprint (isPrintable_of_ascii (not_lt.1 hcontrol.1) hlt)
        rw [if_neg (by omega)] at hlength
        split
        next hle =>
          exact .hex (by decide) (by split_ifs at hlength <;> omega)
            (by split_ifs at hlength <;> omega)
        next hgt =>
          rw [if_neg (by omega), if_neg (by omega)] at hlength
          exact .hex (by decide) (by omega) (by omega)

theorem expands_escapePiece (p : Utf8.Piece) : Expands p.bytes (escapePiece p) := by
  cases p with
  | char c => exact expands_escapeChar c
  | stray bs =>
    have hbyte : ∀ b : UInt8, Expands [b] (escapeByte b) := fun b =>
      .hex (by decide) (show 1 < 2 + 2 by decide) (show 2 + 2 ≤ 4 * 1 by decide)
    have hbytes := Expands.flatMap hbyte bs
    rwa [List.flatMap_singleton'] at hbytes

theorem expands_escape (bs : Bytes) : Expands bs (escape bs) := by
  have h := Expands.flatMap expands_escapePiece (Utf8.pieces bs)
  rwa [Utf8.flatMap_bytes_pieces] at h

theorem escape_encode_of_plain {cs : List Char} (h : ∀ c ∈ cs, Plain c) :
    escape (Utf8.encode cs) = cs := by
  have hself : ∀ c ∈ cs, escapeChar c = [c] := fun c hc => (h c hc).escapeChar
  rw [escape, Utf8.pieces_encode, List.flatMap_map]
  exact (List.flatMap_congr hself).trans (List.flatMap_singleton' cs)

/-- A quotation takes two bytes more than what is quoted, and at most four for each byte besides. It
takes just two more if the bytes are plain text, and only then; and only then they stand between the
quotes as they are. -/
theorem quotation_expansion (bs : Bytes) :
    bs.length + 2 ≤ size (quoteBytes bs) ∧ size (quoteBytes bs) ≤ 4 * bs.length + 2 ∧
      (size (quoteBytes bs) = bs.length + 2 ↔ ∃ cs, Utf8.encode cs = bs ∧ ∀ c ∈ cs, Plain c) ∧
      (size (quoteBytes bs) = bs.length + 2 ↔ Utf8.encode (quoteBody bs) = bs) := by
  have hbounds := expands_escape bs
  rw [size_quoteBytes, quoteBody_eq_escape, Nat.add_right_cancel_iff]
  refine ⟨Nat.add_le_add_right hbounds.le 2, Nat.add_le_add_right hbounds.le_four 2, ⟨?_, ?_⟩,
    ⟨?_, ?_⟩⟩
  · intro heq
    exact ⟨escape bs, hbounds.plain heq⟩
  · rintro ⟨cs, rfl, hplain⟩
    rw [escape_encode_of_plain hplain, size]
  · intro heq
    exact (hbounds.plain heq).1
  · intro hbody
    rw [size, hbody]

end AccessTrail.Text
