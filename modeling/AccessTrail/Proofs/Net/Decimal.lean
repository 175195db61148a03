import AccessTrail.Proofs.Net.Numeral

namespace AccessTrail.Net

section Scanning

variable {α : Type} {p : α → Bool} {rest : List α}

theorem takeWhile_append_of_head (h : ∀ a ∈ rest.head?, p a = false) (as : List α) :
    (as ++ rest).takeWhile p = as.takeWhile p := by
  have hrest : rest.takeWhile p = [] := by
    cases rest with
    | nil => rfl
    | cons a rest => exact List.takeWhile_cons_of_neg (by simp [h a rfl])
  rw [List.takeWhile_append, hrest, List.append_nil]
  split
  next hall => exact ((List.takeWhile_prefix p).eq_of_length hall).symm
  next => rfl

theorem dropWhile_append_of_head (h : ∀ a ∈ rest.head?, p a = false) (as : List α) :
    (as ++ rest).dropWhile p = as.dropWhile p ++ rest := by
  have hsplit := List.takeWhile_append_dropWhile (p := p) (l := as ++ rest)
  rw [takeWhile_append_of_head h] at hsplit
  refine (List.append_right_inj (as.takeWhile p)).1 ?_
  rw [hsplit, ← List.append_assoc, List.takeWhile_append_dropWhile]

end Scanning

theorem isDigit_iff {c : Char} : c.isDigit = true ↔ '0' ≤ c ∧ c ≤ '9' := by
  simp only [Char.isDigit, Bool.and_eq_true, decide_eq_true_eq, Char.le_def]

theorem digitBelow_ten (c : Char) :
    digitBelow 10 c = if c.isDigit then some (c.toNat - '0'.toNat) else none := by
  rw [digitBelow, Hex.value?]
  simp only [isDigit_iff]
  split
  next h =>
    simp only [Char.le_def, UInt32.le_iff_toNat_le, Char.toNat_val, Char.reduceToNat] at h
    simp only [Char.reduceToNat, Option.filter_some, decide_eq_true_eq]
    exact if_pos (by omega)
  · split
    · simp
    · split
      · simp
      · rfl

theorem digitChar_of_isDigit {c : Char} (h : c.isDigit = true) :
    Nat.digitChar (c.toNat - '0'.toNat) = c := by
  have hbounds : 48 ≤ c.toNat ∧ c.toNat ≤ 57 := by
    simpa [Char.isDigit, UInt32.le_iff_toNat_le] using h
  have hchar : ∀ n < 10, Nat.digitChar n = Char.ofNat (48 + n) := by decide
  simp only [Char.reduceToNat]
  rw [hchar _ (by omega), Nat.add_sub_cancel' hbounds.1, Char.ofNat_toNat]

theorem value_of_digits {ds : List Char} (h : ∀ c ∈ ds, c.isDigit = true) (init : Nat) :
    (ds.filterMap (digitBelow 10)).foldl (fun n d => n * 10 + d) init =
      Nat.ofDigitChars 10 ds init := by
  induction ds generalizing init with
  | nil => rfl
  | cons c ds ih =>
    obtain ⟨hc, hds⟩ := List.forall_mem_cons.1 h
    rw [List.filterMap_cons, digitBelow_ten, if_pos hc, Nat.ofDigitChars_cons, ← ih hds,
      Nat.mul_comm 10]
    rfl

theorem toDigits_ofDigitChars {ds : List Char} (hne : ds ≠ []) (h : ∀ c ∈ ds, c.isDigit = true)
    (hzero : ds.head? ≠ some '0' ∨ ds.length = 1) :
    Nat.toDigits 10 (Nat.ofDigitChars 10 ds 0) = ds := by
  induction ds using List.reverseRecOn with
  | nil => exact absurd rfl hne
  | append_singleton ds c ih =>
    have hc : c.isDigit = true := h c (by simp)
    have hlt : c.toNat - '0'.toNat < 10 := by
      simp [Char.isDigit, UInt32.le_iff_toNat_le] at hc ⊢
      omega
    have hlast : Nat.toDigits 10 (c.toNat - '0'.toNat) = [c] := by
      rw [Nat.toDigits_of_lt_base hlt, digitChar_of_isDigit hc]
    rw [Nat.ofDigitChars_append, Nat.ofDigitChars_cons, Nat.ofDigitChars_nil]
    cases ds with
    | nil => simpa using hlast
    | cons d ds =>
      have hhead : d ≠ '0' := by simpa using hzero
      have hfront := ih (List.cons_ne_nil d ds) (fun c hc => h c (List.mem_append_left _ hc))
        (.inl (by simpa using hhead))
      have hpos : 0 < Nat.ofDigitChars 10 (d :: ds) 0 := by
        refine Nat.pos_of_ne_zero fun hz => hhead ?_
        rw [hz, Nat.toDigits_zero] at hfront
        exact (List.cons.inj hfront).1.symm
      rw [← Nat.toDigits_append_toDigits (by decide) hpos hlt, hfront, hlast]

def IsNumeral (bound : Nat) (ds : List Char) : Prop :=
  ds ≠ [] ∧ (∀ c ∈ ds, c.isDigit = true) ∧ Nat.ofDigitChars 10 ds 0 < bound

theorem readNumber_ten_eq_some_iff {bound n : Nat} {cs ds r : List Char} :
    readNumber 10 bound cs = some (n, ds, r) ↔
      IsNumeral bound ds ∧ n = Nat.ofDigitChars 10 ds 0 ∧ cs = ds ++ r ∧
      ∀ c ∈ r.head?, c.isDigit = false := by
  have hclass : (fun c => (digitBelow 10 c).isSome) = Char.isDigit := by
    funext c
    rw [digitBelow_ten]
    split <;> simp [*]
  have hdigits : ∀ c ∈ cs.takeWhile Char.isDigit, c.isDigit = true :=
    fun c hc => List.mem_takeWhile_imp hc
  rw [readNumber, hclass, value_of_digits hdigits]
  simp only [Option.ite_none_right_eq_some, Option.some.injEq, Prod.mk.injEq]
  constructor
  · rintro ⟨⟨hne, hlt⟩, rfl, rfl, rfl⟩
    refine ⟨⟨hne, hdigits, hlt⟩, rfl, List.takeWhile_append_dropWhile.symm, fun c hc => ?_⟩
    have hhead := List.head?_dropWhile_not Char.isDigit cs
    rw [Option.mem_def.1 hc] at hhead
    simpa using hhead
  · rintro ⟨⟨hne, hds, hlt⟩, rfl, rfl, hr⟩
    rw [takeWhile_append_of_head hr, dropWhile_append_of_head hr, List.takeWhile_eq_self_iff.2 hds,
      List.dropWhile_eq_nil_iff.2 hds]
    exact ⟨⟨hne, hlt⟩, rfl, rfl, rfl⟩

theorem IsNumeral.readNumber {bound : Nat} {ds r : List Char} (h : IsNumeral bound ds)
    (hr : ∀ c ∈ r.head?, c.isDigit = false) :
    readNumber 10 bound (ds ++ r) = some (Nat.ofDigitChars 10 ds 0, ds, r) :=
  readNumber_ten_eq_some_iff.2 ⟨h, rfl, rfl, hr⟩

end AccessTrail.Net
