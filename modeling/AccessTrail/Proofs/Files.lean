import AccessTrail.Files.Tree
import Mathlib.Data.List.Basic

namespace AccessTrail.Files

def openingFaults : List Fault := [missing, notDirectory, isDirectory, nameTooLong, nulInName]

theorem bind_eq_error {ε α β : Type} {x : Except ε α} {k : α → Except ε β} {e : ε}
    (h : x >>= k = .error e) :
    x = .error e ∨ ∃ a, x = .ok a ∧ k a = .error e := by
  cases x with
  | error => exact .inl (by cases h; rfl)
  | ok a => exact .inr ⟨a, rfl, h⟩

theorem bind_eq_ok {ε α β : Type} {x : Except ε α} {k : α → Except ε β} {b : β}
    (h : x >>= k = .ok b) :
    ∃ a, x = .ok a ∧ k a = .ok b := by
  cases x with
  | error => cases h
  | ok a => exact ⟨a, rfl, h⟩

variable {fs : Files} {f : Fault}

theorem enter_error {here : Place} {name : List Char} (h : fs.enter here name = .error f) :
    f ∈ openingFaults := by
  unfold enter at h
  split_ifs at h
  · cases h
    decide
  · split at h <;> cases h <;> decide

theorem enterAll_error {names : List (List Char)} {here : Place}
    (h : names.foldlM fs.enter here = .error f) : f ∈ openingFaults := by
  induction names generalizing here with
  | nil => cases h
  | cons name names ih =>
    rw [List.foldlM_cons] at h
    obtain hname | ⟨there, -, hrest⟩ := bind_eq_error h
    · exact enter_error hname
    · exact ih hrest

theorem locate_error {path : List Char} (h : fs.locate path = .error f) : f ∈ openingFaults := by
  unfold locate at h
  by_cases hnul : path.contains '\x00'
  · rw [if_pos hnul] at h
    cases h
    decide
  by_cases hempty : path.isEmpty
  · rw [if_neg hnul, if_pos hempty] at h
    cases h
    decide
  by_cases hlong : pathLimit < (Utf8.encode path).length
  · rw [if_neg hnul, if_neg hempty, if_pos hlong] at h
    cases h
    decide
  rw [if_neg hnul, if_neg hempty, if_neg hlong] at h
  split at h
  · cases h
  · obtain hparent | ⟨parent, -, hspot⟩ := bind_eq_error h
    · exact enterAll_error hparent
    · split at hspot <;> cases hspot

theorem entry?_error {parent : Place} {name : List Char} (h : fs.entry? parent name = .error f) :
    f ∈ openingFaults := by
  unfold entry? at h
  split_ifs at h
  cases h
  decide

theorem openFile_error {path : List Char} (h : fs.openFile path = .error f) :
    f ∈ openingFaults := by
  unfold openFile at h
  obtain hspot | ⟨spot, -, h⟩ := bind_eq_error h
  · exact locate_error hspot
  split at h
  · cases h
    decide
  · cases h
    decide
  · obtain hentry | ⟨entry, -, h⟩ := bind_eq_error h
    · exact entry?_error hentry
    · split at h <;> cases h
      decide

end AccessTrail.Files
