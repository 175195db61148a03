import AccessTrail.Number.Rounding
import Mathlib.Tactic

namespace AccessTrail.Number

theorem roundQuotient_bounds {den : Nat} (h : 0 < den) (num : Nat) :
    2 * roundQuotient num den * den ≤ 2 * num + den ∧
      2 * num ≤ 2 * roundQuotient num den * den + den := by
  have hsplit := Nat.div_add_mod num den
  have hlt := Nat.mod_lt num h
  unfold roundQuotient
  generalize num / den = q at *
  generalize num % den = r at *
  subst hsplit
  have hmul : 2 * (q + 1) * den = 2 * (den * q) + 2 * den := by ring
  have hmul' : 2 * q * den = 2 * (den * q) := by ring
  simp only
  split_ifs <;> omega

theorem abs_roundQuotient_sub_le {den : Nat} (h : 0 < den) (num : Nat) :
    |(roundQuotient num den : ℚ) - num / den| ≤ 1 / 2 := by
  obtain ⟨hle, hge⟩ := roundQuotient_bounds h num
  have hden : (0 : ℚ) < den := by exact_mod_cast h
  have hle' : 2 * (roundQuotient num den : ℚ) * den ≤ 2 * num + den := by exact_mod_cast hle
  have hge' : 2 * (num : ℚ) ≤ 2 * roundQuotient num den * den + den := by exact_mod_cast hge
  have hquot : (num : ℚ) / den * den = num := div_mul_cancel₀ _ hden.ne'
  rw [abs_le]
  constructor
  · nlinarith
  · nlinarith

theorem shifted_den_pos {den : Nat} (h : 0 < den) (num : Nat) (shift : Int) :
    0 < (shifted num den shift).2 := by
  unfold shifted
  split
  · exact h
  · exact Nat.mul_pos h (Nat.pow_pos (by decide))

theorem shifted_div (num den : Nat) (shift : Int) :
    ((shifted num den shift).1 : ℚ) / (shifted num den shift).2 = num / den * 2 ^ shift := by
  unfold shifted
  split
  next h =>
    obtain ⟨k, rfl⟩ := Int.eq_ofNat_of_zero_le h
    simp [Nat.pow_eq, mul_div_right_comm]
  next h =>
    obtain ⟨k, hk⟩ := Int.eq_ofNat_of_zero_le (show 0 ≤ -shift by omega)
    obtain rfl : shift = -(k : Int) := by omega
    simp [Nat.pow_eq, div_mul_eq_div_div, zpow_neg]
    rfl

theorem log2_bounds {n : Nat} (h : 0 < n) :
    (2 : ℚ) ^ (n.log2 : Int) ≤ n ∧ (n : ℚ) < 2 ^ ((n.log2 : Int) + 1) := by
  have hlow := Nat.log2_self_le h.ne'
  have hhigh := Nat.lt_log2_self (n := n)
  constructor
  · exact_mod_cast hlow
  · exact_mod_cast hhigh

namespace Binary64

def value (v : Binary64) : ℚ := v.mantissa * 2 ^ v.exponent

theorem exponentOf_bounds {num den : Nat} (hnum : 0 < num) (hden : 0 < den) :
    (num : ℚ) / den < 2 ^ (exponentOf num den + 53) ∧
      (exponentOf num den = -1074 ∨ (2 : ℚ) ^ (exponentOf num den + 52) ≤ num / den) := by
  obtain ⟨hnum₁, hnum₂⟩ := log2_bounds hnum
  obtain ⟨hden₁, hden₂⟩ := log2_bounds hden
  have hpos : (0 : ℚ) < den := by exact_mod_cast hden
  let guess : Int := (num.log2 : Int) - den.log2 - 52
  have hlow : (2 : ℚ) ^ (guess + 51) ≤ num / den := by
    rw [le_div_iff₀ hpos]
    calc (2 : ℚ) ^ (guess + 51) * den ≤ 2 ^ (guess + 51) * 2 ^ ((den.log2 : Int) + 1) := by gcongr
      _ = 2 ^ (num.log2 : Int) := by
        rw [← zpow_add₀ two_ne_zero]
        congr 1
        omega
      _ ≤ num := hnum₁
  have hhigh : (num : ℚ) / den < 2 ^ (guess + 53) := by
    rw [div_lt_iff₀ hpos]
    calc (num : ℚ) < 2 ^ ((num.log2 : Int) + 1) := hnum₂
      _ = 2 ^ (guess + 53) * 2 ^ (den.log2 : Int) := by
        rw [← zpow_add₀ two_ne_zero]
        congr 1
        omega
      _ ≤ 2 ^ (guess + 53) * den := by gcongr
  have hscaled := shifted_div num den (-guess)
  have hdivisor : (0 : ℚ) < (shifted num den (-guess)).2 := by
    exact_mod_cast shifted_den_pos hden num (-guess)
  have hsmall : (shifted num den (-guess)).1 / (shifted num den (-guess)).2 < Nat.pow 2 52 ↔
      (num : ℚ) / den < 2 ^ (guess + 52) := by
    have hpow : (0 : ℚ) < 2 ^ guess := by positivity
    have hcast : (shifted num den (-guess)).1 < Nat.pow 2 52 * (shifted num den (-guess)).2 ↔
        ((shifted num den (-guess)).1 : ℚ) / (shifted num den (-guess)).2 < 2 ^ (52 : ℤ) := by
      rw [div_lt_iff₀ hdivisor, Nat.pow_eq]
      norm_cast
    rw [Nat.div_lt_iff_lt_mul (shifted_den_pos hden num (-guess)), hcast, hscaled, zpow_neg,
      ← div_eq_mul_inv, div_lt_iff₀ hpow, ← zpow_add₀ two_ne_zero, add_comm]
  let e :=
    if (shifted num den (-guess)).1 / (shifted num den (-guess)).2 < Nat.pow 2 52 then guess - 1
    else guess
  have he : exponentOf num den = max (-1074) e := rfl
  have hbounds : (2 : ℚ) ^ (e + 52) ≤ num / den ∧ (num : ℚ) / den < 2 ^ (e + 53) := by
    simp only [e]
    split
    next h =>
      rw [hsmall] at h
      rw [show guess - 1 + 52 = guess + 51 by omega, show guess - 1 + 53 = guess + 52 by omega]
      exact ⟨hlow, h⟩
    next h =>
      rw [hsmall, not_lt] at h
      exact ⟨h, hhigh⟩
  rw [he]
  constructor
  · exact hbounds.2.trans_le (zpow_le_zpow_right₀ (by norm_num) (by omega))
  · rcases max_choice (-1074) e with h | h
    · exact .inl h
    · rw [h]
      exact .inr hbounds.1

/-- `v` is `q` to the nearest multiple of the last of its 53 bits. -/
def Nearest (q v : ℚ) : Prop :=
  ∃ (m : ℕ) (e : ℤ), v = m * 2 ^ e ∧ |(m : ℚ) - q * 2 ^ (-e)| ≤ 1 / 2 ∧ q < 2 ^ (e + 53) ∧
    (e = -1074 ∨ (2 : ℚ) ^ (e + 52) ≤ q)

theorem nearest_ofQuotient {num den : Nat} (hnum : 0 < num) (hden : 0 < den) :
    Nearest (num / den) (ofQuotient num den).value := by
  let e := exponentOf num den
  let m := roundQuotient (shifted num den (-e)).1 (shifted num den (-e)).2
  have hvalue : (ofQuotient num den).value = m * 2 ^ e := by
    have hquotient :
        ofQuotient num den = if m = Nat.pow 2 53 then ⟨Nat.pow 2 52, e + 1⟩ else ⟨m, e⟩ :=
      if_neg hnum.ne'
    rw [hquotient]
    split
    next hcarry =>
      rw [hcarry, value, Nat.pow_eq, Nat.pow_eq, zpow_add₀ two_ne_zero]
      push_cast
      ring
    next => rfl
  have herror : |(m : ℚ) - num / den * 2 ^ (-e)| ≤ 1 / 2 := by
    rw [← shifted_div]
    exact abs_roundQuotient_sub_le (shifted_den_pos hden num (-e)) _
  exact ⟨m, e, hvalue, herror, exponentOf_bounds hnum hden⟩

theorem value_ofNat {n : Nat} (h : n < 2 ^ 53) : (ofNat n).value = n := by
  rcases Nat.eq_zero_or_pos n with rfl | hpos
  · simp [ofNat, ofQuotient, zero, value]
  obtain ⟨m, e, hvalue, herror, -, hexact⟩ := nearest_ofQuotient hpos Nat.one_pos
  rw [Nat.cast_one, div_one] at herror hexact
  have he : e ≤ 0 := by
    rcases hexact with rfl | hlow
    · decide
    · have hlt : (2 : ℚ) ^ (e + 52) < 2 ^ (53 : ℤ) := hlow.trans_lt (by exact_mod_cast h)
      have := (zpow_lt_zpow_iff_right₀ (by norm_num : (1 : ℚ) < 2)).1 hlt
      omega
  obtain ⟨k, rfl⟩ := Int.exists_eq_neg_ofNat he
  have hinteger : (n : ℚ) * 2 ^ (-(-(k : ℤ))) = ((n * 2 ^ k : ℕ) : ℚ) := by
    rw [neg_neg, zpow_natCast]
    push_cast
    rfl
  have hm : m = n * 2 ^ k := by
    rw [hinteger] at herror
    have hlt : |((m : ℤ) - (n * 2 ^ k : ℕ) : ℤ)| < 1 := by
      have : |((m : ℚ) - (n * 2 ^ k : ℕ))| < 1 := herror.trans_lt (by norm_num)
      exact_mod_cast this
    have := Int.abs_lt_one_iff.1 hlt
    omega
  have hofNat : (ofNat n).value = m * 2 ^ (-(k : ℤ)) := hvalue
  rw [hofNat, hm, zpow_neg, zpow_natCast]
  push_cast
  exact mul_inv_cancel_right₀ (by positivity) _

theorem mantissa_pos {v : Binary64} (h : 0 < v.value) : 0 < v.mantissa := by
  refine Nat.pos_of_ne_zero fun hzero => ?_
  simp [value, hzero] at h

theorem nearest_div {a b : Binary64} (ha : 0 < a.value) (hb : 0 < b.value) :
    Nearest (a.value / b.value) (a.div b).value := by
  let parts := shifted a.mantissa b.mantissa (a.exponent - b.exponent)
  have hden : 0 < parts.2 := shifted_den_pos (mantissa_pos hb) _ _
  have hparts : (parts.1 : ℚ) / parts.2 = a.value / b.value := by
    rw [shifted_div, value, value, zpow_sub₀ two_ne_zero]
    ring
  have hnum : 0 < parts.1 := by
    refine Nat.pos_of_ne_zero fun hzero => ?_
    rw [hzero, Nat.cast_zero, zero_div] at hparts
    exact (div_pos ha hb).ne hparts
  rw [← hparts]
  exact nearest_ofQuotient hnum hden

end Binary64

end AccessTrail.Number
