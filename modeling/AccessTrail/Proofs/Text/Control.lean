import AccessTrail.Number.Decimal
import AccessTrail.Proofs.Visible
import AccessTrail.Ratio
import AccessTrail.Text.Lines

namespace AccessTrail.Text

def Clear (cs : List Char) : Prop := ∀ c ∈ cs, Http.isControl c = false

theorem isControl_eq_false_iff {c : Char} :
    Http.isControl c = false ↔ 0x20 ≤ c.toNat ∧ c.toNat ≠ 0x7F := by
  simp [Http.isControl]

namespace Clear

variable {cs ds : List Char}

@[simp] theorem nil : Clear [] := by simp [Clear]

@[simp] theorem cons_iff {c : Char} : Clear (c :: cs) ↔ Http.isControl c = false ∧ Clear cs :=
  List.forall_mem_cons

@[simp] theorem append_iff : Clear (cs ++ ds) ↔ Clear cs ∧ Clear ds := List.forall_mem_append

theorem of_visible (h : cs.all isVisible = true) : Clear cs := by
  intro c hc
  have hv := isVisible_iff.1 (List.all_eq_true.1 h c hc)
  exact isControl_eq_false_iff.2 ⟨hv.1.le, hv.2⟩

theorem not_mem (h : Clear cs) {c : Char} (hc : Http.isControl c = true) : c ∉ cs := by
  intro hm
  rw [h c hm] at hc
  cases hc

end Clear

theorem wholeLines_append {l : List Char} (h : '\n' ∉ l) (rest : List Char) :
    wholeLines (l ++ '\n' :: rest) = (l ++ ['\n']) :: wholeLines rest := by
  induction l with
  | nil => simp [wholeLines]
  | cons c l ih =>
    rw [List.mem_cons, not_or] at h
    rw [List.cons_append, wholeLines, if_neg (Ne.symm h.1), ih h.2]
    rfl

theorem dropEnd_append {l : List Char} (h : '\r' ∉ l) : dropEnd (l ++ ['\n']) = l := by
  rw [dropEnd, List.reverse_append, List.reverse_singleton, List.singleton_append]
  split
  next cs hl =>
    obtain rfl : l = cs.reverse ++ ['\r'] := by
      simpa using congrArg List.reverse (List.cons.inj hl).2
    simp at h
  next cs _ hl => rw [← (List.cons.inj hl).2, List.reverse_reverse]
  next _ hl => exact absurd rfl (hl _)

theorem lines_flatMap {ls : List (List Char)} (h : ∀ l ∈ ls, Clear l) :
    lines (ls.flatMap (· ++ ['\n'])) = ls := by
  induction ls with
  | nil => rfl
  | cons l ls ih =>
    obtain ⟨hl, hls⟩ := List.forall_mem_cons.1 h
    have hlines : lines (ls.flatMap (· ++ ['\n'])) = ls := ih hls
    rw [lines] at hlines ⊢
    rw [List.flatMap_cons, List.append_assoc, List.singleton_append,
      wholeLines_append (hl.not_mem rfl), List.map_cons, dropEnd_append (hl.not_mem rfl), hlines]

end AccessTrail.Text

namespace AccessTrail.Ratio

open Text (isVisible)

theorem all_visible_twoPlaces (h : Nat) : (Number.twoPlaces h).all isVisible = true := by
  have hd : ∀ n, isVisible (Nat.digitChar (n % 10)) = true := fun n =>
    (by decide : ∀ d < 10, isVisible (Nat.digitChar d) = true) _ (Nat.mod_lt n (by decide))
  have hp : isVisible '.' = true := rfl
  simp only [Number.twoPlaces, List.all_append, List.all_cons, List.all_nil, hd, hp, Bool.and_true]
  exact Text.all_visible_toDigits (by decide) (by decide) _

theorem all_visible_text (produced sent : Nat) :
    (text produced sent).toList.all isVisible = true := by
  unfold text
  split
  · decide
  · split
    · decide
    · rw [String.toList_ofList]
      exact all_visible_twoPlaces _

end AccessTrail.Ratio
