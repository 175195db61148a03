import AccessTrail.Proofs.Text.Utf8
import AccessTrail.Text.Quoted

namespace AccessTrail.Hex

theorem value?_digit (n : Nat) : value? (digit n) = some (n % 16) :=
  (by decide : ∀ d < 16, value? (Nat.digitChar d) = some d) _ (Nat.mod_lt _ (by decide))

theorem length_values_padded (width n : Nat) :
    ((padded width n).filterMap value?).length = width := by
  induction width generalizing n with
  | zero => rfl
  | succ w ih => simp [padded, ih, value?_digit]

theorem foldl_values_padded (width n : Nat) :
    ((padded width n).filterMap value?).foldl (fun n d => n * 16 + d) 0 = n % 16 ^ width := by
  induction width generalizing n with
  | zero => simp [padded, Nat.mod_one]
  | succ w ih =>
    rw [padded, List.filterMap_append, List.foldl_append, ih, pow_succ', Nat.mod_mul]
    simp only [List.filterMap_cons, value?_digit, List.filterMap_nil, List.foldl_cons,
      List.foldl_nil]
    omega

theorem read?_padded {width n : Nat} (h : n < 16 ^ width) (rest : List Char) :
    read? width (padded width n ++ rest) = some (n, rest) := by
  have htake : (padded width n ++ rest).take width = padded width n :=
    List.take_left' (length_padded width n)
  have hdrop : (padded width n ++ rest).drop width = rest :=
    List.drop_left' (length_padded width n)
  rw [read?, htake, hdrop]
  simp only [length_values_padded, foldl_values_padded, Nat.mod_eq_of_lt h, if_true]

end AccessTrail.Hex

namespace AccessTrail.Text

theorem readQuoted_quote (rest : List Char) : readQuoted ('"' :: rest) = some ([], rest) := by
  rw [readQuoted]

theorem readQuoted_short {e : Char} {b : UInt8} (h : shortByte e = some b) (rest : List Char) :
    readQuoted ('\\' :: e :: rest) = (readQuoted rest).map fun r => (b :: r.1, r.2) := by
  rw [readQuoted]
  simp only [h]

theorem readQuoted_hex {e : Char} {width : Nat} {asByte : Bool} {n : Nat}
    (he : shortByte e = none) (hx : hexEscape e = some (width, asByte)) (hn : n < 16 ^ width)
    (rest : List Char) :
    readQuoted ('\\' :: e :: (Hex.padded width n ++ rest)) = (readQuoted rest).map fun r =>
      ((if asByte then [UInt8.ofNat n] else String.utf8EncodeChar (Char.ofNat n)) ++ r.1, r.2) := by
  rw [readQuoted]
  simp only [he, hx, Hex.read?_padded hn, List.drop_left' (Hex.length_padded width n)]

theorem readQuoted_plain {c : Char} (hq : c ≠ '"') (hb : c ≠ '\\') (rest : List Char) :
    readQuoted (c :: rest) =
      (readQuoted rest).map fun r => (String.utf8EncodeChar c ++ r.1, r.2) := by
  rw [readQuoted]
  · exact hq
  · intro e rest hc
    exact absurd hc hb

theorem shortByte_of_shortEscape {c e : Char} (h : shortEscape c = some e) :
    ∃ b, shortByte e = some b ∧ String.utf8EncodeChar c = [b] := by
  rw [← Char.ofNat_toNat c]
  unfold shortEscape at h
  split at h <;> cases h <;> next hc => exact ⟨_, rfl, by rw [hc]; rfl⟩

theorem ne_of_shortEscape {c : Char} (h : shortEscape c = none) : c ≠ '"' ∧ c ≠ '\\' := by
  constructor <;> rintro rfl <;> cases h

theorem toNat_lt_pow (c : Char) : c.toNat < 16 ^ 8 := by
  have h := c.val.toNat_lt
  rw [Char.toNat_val] at h
  omega

theorem readQuoted_escapeChar (c : Char) (rest : List Char) :
    readQuoted (escapeChar c ++ rest) =
      (readQuoted rest).map fun r => (String.utf8EncodeChar c ++ r.1, r.2) := by
  unfold escapeChar
  split
  next e h =>
    obtain ⟨b, hb, hc⟩ := shortByte_of_shortEscape h
    rw [hc]
    exact readQuoted_short hb rest
  next h =>
    obtain ⟨hq, hb⟩ := ne_of_shortEscape h
    split
    next hx =>
      have hlt : c.toNat < 0x80 := by
        simp only [Bool.or_eq_true, decide_eq_true_eq, beq_iff_eq] at hx
        omega
      rw [Utf8.utf8EncodeChar_ascii hlt]
      exact readQuoted_hex (e := 'x') (n := c.toNat) rfl rfl (hlt.trans (by decide)) rest
    next =>
      split
      next => exact readQuoted_plain hq hb rest
      next =>
        have key : ∀ (e : Char) (width : Nat), shortByte e = none →
            hexEscape e = some (width, false) → c.toNat < 16 ^ width →
            readQuoted ('\\' :: e :: (Hex.padded width c.toNat ++ rest)) =
              (readQuoted rest).map fun r => (String.utf8EncodeChar c ++ r.1, r.2) := by
          intro e width he hx hn
          rw [readQuoted_hex he hx hn, Char.ofNat_toNat]
          rfl
        split
        next hn => exact key 'u' 4 rfl rfl (by omega)
        next => exact key 'U' 8 rfl rfl (toNat_lt_pow c)

theorem readQuoted_escapeByte (b : UInt8) (rest : List Char) :
    readQuoted (escapeByte b ++ rest) = (readQuoted rest).map fun r => (b :: r.1, r.2) := by
  have h := readQuoted_hex (e := 'x') rfl rfl b.toNat_lt rest
  rw [UInt8.ofNat_toNat] at h
  exact h

theorem readQuoted_escapeBytes (bs : Bytes) (rest : List Char) :
    readQuoted (bs.flatMap escapeByte ++ rest) =
      (readQuoted rest).map fun r => (bs ++ r.1, r.2) := by
  induction bs with
  | nil => simp
  | cons b bs ih =>
    rw [List.flatMap_cons, List.append_assoc, readQuoted_escapeByte, ih, Option.map_map]
    rfl

theorem readQuoted_escapePiece (p : Utf8.Piece) (rest : List Char) :
    readQuoted (escapePiece p ++ rest) =
      (readQuoted rest).map fun r => (p.bytes ++ r.1, r.2) := by
  cases p with
  | char c => exact readQuoted_escapeChar c rest
  | stray bs => exact readQuoted_escapeBytes bs rest

theorem readQuoted_escapePieces (ps : List Utf8.Piece) (rest : List Char) :
    readQuoted (ps.flatMap escapePiece ++ rest) =
      (readQuoted rest).map fun r => (ps.flatMap Utf8.Piece.bytes ++ r.1, r.2) := by
  induction ps with
  | nil => simp
  | cons p ps ih =>
    rw [List.flatMap_cons, List.append_assoc, readQuoted_escapePiece, ih, Option.map_map,
      List.flatMap_cons]
    simp only [Function.comp_def, List.append_assoc]

theorem readQuoted_escape (bs : Bytes) (rest : List Char) :
    readQuoted (escape bs ++ '"' :: rest) = some (bs, rest) := by
  rw [escape, readQuoted_escapePieces, readQuoted_quote, Utf8.flatMap_bytes_pieces]
  simp

theorem unquote_quoteBytes (bs : Bytes) : unquote (quoteBytes bs) = some bs := by
  rw [quoteBytes, unquote, readQuoted_escape]

theorem quoteBytes_injective : Function.Injective quoteBytes := by
  intro bs cs h
  simpa [unquote_quoteBytes] using congrArg unquote h

/-- A stray byte, a control character and the text of an escape are among what quotation tells
apart. -/
theorem quotation_lossless :
    (∀ bs, unquote (quoteBytes bs) = some bs) ∧ Function.Injective quoteBytes ∧
      ([[0x85], Utf8.encode ['\u0085'], Utf8.encode ['\\', 'x', '8', '5']].map quoteBytes).Nodup :=
  ⟨unquote_quoteBytes, quoteBytes_injective,
    (List.nodup_map_iff quoteBytes_injective).2 (by decide)⟩

end AccessTrail.Text
