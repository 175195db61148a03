import AccessTrail.Observer
import AccessTrail.Proofs.Number.Rounding
import Mathlib.Tactic

/-!
What a ratio looks like, and when there is none. A quotient near one half of a hundredth is the
delicate one: what binary64 keeps of it is never that half, and is above it if and only if the
quotient of the counts is not below.
-/

namespace AccessTrail

namespace Number

theorem roundQuotient_eq_zero_iff {den : Nat} (h : 0 < den) (num : Nat) :
    roundQuotient num den = 0 ↔ 2 * num ≤ den := by
  constructor
  · intro hzero
    simpa [hzero] using (roundQuotient_bounds h num).2
  · intro hle
    have hlt : num < den := by omega
    simp only [roundQuotient, Nat.div_eq_of_lt hlt, Nat.mod_eq_of_lt hlt]
    split_ifs <;> omega

theorem hundredths_eq_zero_iff (v : Binary64) : hundredths v = 0 ↔ v.value ≤ 1 / 200 := by
  have hden : 0 < v.fraction.2 := shifted_den_pos Nat.one_pos v.mantissa v.exponent
  have hvalue : (v.fraction.1 : ℚ) / v.fraction.2 = v.value := by
    rw [Binary64.fraction, shifted_div, Nat.cast_one, div_one, Binary64.value]
  have hpos : (0 : ℚ) < v.fraction.2 := by exact_mod_cast hden
  rw [← hvalue, div_le_div_iff₀ hpos (by norm_num), hundredths, roundQuotient_eq_zero_iff hden]
  norm_cast
  omega

theorem le_of_abs_sub_le {m : ℕ} {x : ℚ} (h : |(m : ℚ) - x| ≤ 1 / 2) (n : ℕ)
    (hn : (n : ℚ) - 1 / 2 < x) : n ≤ m := by
  have hlt : (n : ℚ) < m + 1 := by linarith [(abs_le.1 h).1]
  exact Nat.lt_succ_iff.1 (by exact_mod_cast hlt)

theorem ge_of_abs_sub_le {m : ℕ} {x : ℚ} (h : |(m : ℚ) - x| ≤ 1 / 2) (n : ℕ) (hn : x < n + 1 / 2) :
    m ≤ n := by
  have hlt : (m : ℚ) < n + 1 := by linarith [(abs_le.1 h).2]
  exact Nat.lt_succ_iff.1 (by exact_mod_cast hlt)

namespace Binary64.Nearest

variable {q v : ℚ}

theorem mul_zpow_neg_lt (e k : ℤ) (h : q < 2 ^ (e + k)) : q * 2 ^ (-e) < 2 ^ k := by
  rw [zpow_neg, ← div_eq_mul_inv, div_lt_iff₀ (by positivity), ← zpow_add₀ two_ne_zero, add_comm k]
  exact h

theorem le_mul_zpow_neg (e k : ℤ) (h : 2 ^ (e + k) ≤ q) : 2 ^ k ≤ q * 2 ^ (-e) := by
  rw [zpow_neg, ← div_eq_mul_inv, le_div_iff₀ (by positivity), ← zpow_add₀ two_ne_zero, add_comm k]
  exact h

theorem gt_of_ge (h : Nearest q v) (hq : 1 / 200 ≤ q) : 1 / 200 < v := by
  obtain ⟨m, e, rfl, herror, hhigh, hlow⟩ := h
  rcases lt_trichotomy e (-60) with he | rfl | he
  · have hsmall : (2 : ℚ) ^ (e + 53) ≤ 2 ^ (-8 : ℤ) := zpow_le_zpow_right₀ (by norm_num) (by omega)
    norm_num at hsmall hq
    linarith
  · have hm : 5764607523034235 ≤ m := by
      refine le_of_abs_sub_le herror _ ?_
      norm_num at hq ⊢
      linarith
    have hm' : (5764607523034235 : ℚ) ≤ m := by exact_mod_cast hm
    norm_num
    linarith
  · have hlow' : (2 : ℚ) ^ (e + 52) ≤ q := hlow.resolve_left (by omega)
    have hm : 2 ^ 52 ≤ m := by
      refine le_of_abs_sub_le herror _ ?_
      have := le_mul_zpow_neg e 52 hlow'
      norm_num at this ⊢
      linarith
    calc (1 / 200 : ℚ) < 2 ^ 52 * 2 ^ (-59 : ℤ) := by norm_num
      _ ≤ m * 2 ^ e := by
        gcongr
        · exact_mod_cast hm
        · norm_num
        · omega

/-- The half is itself no double: a quotient below it by as little as counts of 53 bits may be stays
below. -/
theorem lt_of_le (h : Nearest q v) (hq : q ≤ 1 / 200 - 1 / (200 * 2 ^ 53)) : v < 1 / 200 := by
  obtain ⟨m, e, rfl, herror, hhigh, hlow⟩ := h
  rcases lt_trichotomy e (-60) with he | rfl | he
  · have hm : m ≤ 2 ^ 53 := by
      refine ge_of_abs_sub_le herror _ ?_
      have := mul_zpow_neg_lt e 53 hhigh
      norm_num at this ⊢
      linarith
    calc (m : ℚ) * 2 ^ e ≤ 2 ^ 53 * 2 ^ (-61 : ℤ) := by
          gcongr
          · exact_mod_cast hm
          · norm_num
          · omega
      _ < 1 / 200 := by norm_num
  · have hm : m ≤ 5764607523034234 := by
      refine ge_of_abs_sub_le herror _ ?_
      norm_num at hq ⊢
      linarith
    have hm' : (m : ℚ) ≤ 5764607523034234 := by exact_mod_cast hm
    norm_num
    linarith
  · have hlarge : (2 : ℚ) ^ (-7 : ℤ) ≤ 2 ^ (e + 52) := zpow_le_zpow_right₀ (by norm_num) (by omega)
    have hlow' : (2 : ℚ) ^ (e + 52) ≤ q := hlow.resolve_left (by omega)
    norm_num at hlarge hq
    linarith

end Binary64.Nearest

def IsTwoPlaces (cs : List Char) : Prop :=
  ∃ whole a b, whole ≠ [] ∧ (∀ c ∈ whole, c.isDigit = true) ∧ a.isDigit = true ∧ b.isDigit = true ∧
    cs = whole ++ ['.', a, b]

theorem isDigit_digitChar_mod (n : Nat) : (Nat.digitChar (n % 10)).isDigit = true :=
  (by decide : ∀ d < 10, (Nat.digitChar d).isDigit = true) _ (Nat.mod_lt n (by decide))

theorem isTwoPlaces_twoPlaces (h : Nat) : IsTwoPlaces (twoPlaces h) :=
  ⟨digitChars (h / 100), _, _, Nat.toDigits_ne_nil,
    fun _ => Nat.isDigit_of_mem_toDigits (by decide) (by decide),
    isDigit_digitChar_mod _, isDigit_digitChar_mod _, rfl⟩

theorem twoPlaces_ne_zero {h : Nat} (hpos : 0 < h) : twoPlaces h ≠ "0.00".toList := by
  intro heq
  have hdigit : ∀ d < 10, Nat.digitChar d = '0' → d = 0 := by decide
  obtain ⟨hwhole, hplaces⟩ :=
    List.append_inj' (show digitChars (h / 100) ++ _ = ['0'] ++ ['.', '0', '0'] from heq) rfl
  have hhundreds : h / 100 = 0 := by
    rw [← Nat.ofDigitChars_ten_toDigits (n := h / 100), ← digitChars, hwhole]
    rfl
  simp only [List.cons.injEq, and_true, true_and] at hplaces
  have htens := hdigit _ (Nat.mod_lt _ (by decide)) hplaces.1
  have hones := hdigit _ (Nat.mod_lt _ (by decide)) hplaces.2
  omega

end Number

namespace Ratio

open Number

theorem text_cases (produced sent : Nat) :
    (text produced sent = none ∧
      (sent = 0 ∨ produced = 0 ∨ produced = sent ∨ quotientHundredths produced sent = 0)) ∨
    (text produced sent = String.ofList (twoPlaces (quotientHundredths produced sent)) ∧
      sent ≠ 0 ∧ produced ≠ 0 ∧ produced ≠ sent ∧ 0 < quotientHundredths produced sent) := by
  unfold text
  split
  next hcounts => exact .inl ⟨rfl, by grind⟩
  next hcounts =>
    simp only [not_or] at hcounts
    split
    next hzero => exact .inl ⟨rfl, .inr (.inr (.inr hzero))⟩
    next hne => exact .inr ⟨rfl, hcounts.1, hcounts.2.1, hcounts.2.2, Nat.pos_of_ne_zero hne⟩

theorem not_isTwoPlaces_none : ¬IsTwoPlaces none.toList := by
  rintro ⟨whole, a, b, -, -, -, -, heq⟩
  have hlength := congrArg List.length heq
  simp [none] at hlength

theorem quotientHundredths_eq_zero_iff {produced sent : Nat} (hproduced : 0 < produced)
    (hsent : 0 < sent) (hproduced' : produced < 2 ^ 53) (hsent' : sent < 2 ^ 53) :
    quotientHundredths produced sent = 0 ↔ 200 * produced < sent := by
  have hp := Binary64.value_ofNat hproduced'
  have hs := Binary64.value_ofNat hsent'
  have hp₀ : (0 : ℚ) < produced := by exact_mod_cast hproduced
  have hs₀ : (0 : ℚ) < sent := by exact_mod_cast hsent
  have hnearest := Binary64.nearest_div (hp ▸ hp₀) (hs ▸ hs₀)
  rw [hp, hs] at hnearest
  rw [quotientHundredths, hundredths_eq_zero_iff]
  constructor
  · intro hle
    by_contra hge
    have hge' : (sent : ℚ) ≤ 200 * produced := by exact_mod_cast not_lt.1 hge
    refine hle.not_gt (hnearest.gt_of_ge ?_)
    rw [div_le_div_iff₀ (by norm_num) hs₀]
    linarith
  · intro hlt
    have hlt' : (200 : ℚ) * produced + 1 ≤ sent := by exact_mod_cast hlt
    have hbits : (sent : ℚ) ≤ 2 ^ 53 := by exact_mod_cast hsent'.le
    refine (hnearest.lt_of_le ?_).le
    rw [div_le_iff₀ hs₀]
    linarith

end Ratio

/-- A ratio is a number with two places that is not nothing, or there is none. As long as doubles
hold both counts, there is none if and only if one of them is nothing, they are equal, or the
quotient is below half a hundredth. -/
theorem Tally.ratio_two_places (t : Tally) :
    (t.ratio = "-" ∨ Number.IsTwoPlaces t.ratio.toList) ∧ t.ratio ≠ "0.00" ∧
    (t.produced.toNat < 2 ^ 53 → t.sent.toNat < 2 ^ 53 →
      (t.ratio = "-" ↔ t.produced = 0 ∨ t.sent = 0 ∨ t.produced = t.sent ∨
        200 * t.produced.toNat < t.sent.toNat)) := by
  rw [← UInt64.toNat_inj, ← UInt64.toNat_inj, ← UInt64.toNat_inj, UInt64.toNat_zero]
  obtain ⟨hnone, hwhy⟩ | ⟨htext, hsent, hproduced, hdiffer, hpos⟩ :=
    Ratio.text_cases t.produced.toNat t.sent.toNat
  · have hratio : t.ratio = "-" := hnone
    refine ⟨.inl hratio, by rw [hratio]; decide,
      fun hproduced' hsent' => ⟨fun _ => ?_, fun _ => hratio⟩⟩
    by_cases hcounts : t.produced.toNat = 0 ∨ t.sent.toNat = 0
    · exact hcounts.imp_right .inl
    have hcut := Ratio.quotientHundredths_eq_zero_iff (by omega) (by omega) hproduced' hsent'
    rw [hcut] at hwhy
    omega
  · have hlist : t.ratio.toList =
        Number.twoPlaces (Ratio.quotientHundredths t.produced.toNat t.sent.toNat) := by
      rw [Tally.ratio, htext, String.toList_ofList]
    have hform : Number.IsTwoPlaces t.ratio.toList := hlist ▸ Number.isTwoPlaces_twoPlaces _
    refine ⟨.inr hform, fun hzero => ?_, fun hproduced' hsent' => ⟨fun hnone => ?_, fun hwhy => ?_⟩⟩
    · exact Number.twoPlaces_ne_zero hpos (hlist ▸ congrArg String.toList hzero)
    · rw [hnone] at hform
      exact absurd hform Ratio.not_isTwoPlaces_none
    · have hcut := Ratio.quotientHundredths_eq_zero_iff (by omega) (by omega) hproduced' hsent'
      omega

theorem Tally.ratio_two_places_of_half_hundredth :
    let t : Tally := { produced := 1, sent := 200 }
    let t' : Tally := { produced := 1, sent := 201 }
    t.produced.toNat < 2 ^ 53 ∧ t.sent.toNat < 2 ^ 53 ∧ t'.sent.toNat < 2 ^ 53 ∧
      Number.IsTwoPlaces t.ratio.toList ∧ t'.ratio = "-" := by
  intro t t'
  have hform := Tally.ratio_two_places t
  have hform' := Tally.ratio_two_places t'
  refine ⟨by decide, by decide, by decide, hform.1.resolve_left fun hnone => ?_, ?_⟩
  · have hwhy := (hform.2.2 (by decide) (by decide)).1 hnone
    revert hwhy
    decide
  · exact (hform'.2.2 (by decide) (by decide)).2 (by decide)

end AccessTrail
