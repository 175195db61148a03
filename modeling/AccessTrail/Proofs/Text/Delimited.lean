import AccessTrail.Proofs.Text.Control
import AccessTrail.Proofs.Text.Quoted

namespace AccessTrail.Text

/-! General categories of characters that are not seen as themselves. -/

namespace Category

def control : List (Nat × Nat) := [(0x00, 0x1F), (0x7F, 0x9F)]

def separator : List (Nat × Nat) :=
  [(0x20, 0x20), (0xA0, 0xA0), (0x1680, 0x1680), (0x2000, 0x200A), (0x2028, 0x2028),
   (0x2029, 0x2029), (0x202F, 0x202F), (0x205F, 0x205F), (0x3000, 0x3000)]

def format : List (Nat × Nat) :=
  [(0xAD, 0xAD), (0x0600, 0x0605), (0x061C, 0x061C), (0x06DD, 0x06DD), (0x070F, 0x070F),
   (0x0890, 0x0891), (0x08E2, 0x08E2), (0x180E, 0x180E), (0x200B, 0x200B), (0x200C, 0x200F),
   (0x202A, 0x202E), (0x2060, 0x2064), (0x2066, 0x206F), (0xFEFF, 0xFEFF), (0xFFF9, 0xFFFB),
   (0x110BD, 0x110BD), (0x110CD, 0x110CD), (0x13430, 0x1343F), (0x1BCA0, 0x1BCA3),
   (0x1D173, 0x1D17A), (0xE0001, 0xE0001), (0xE0020, 0xE007F)]

def privateUse : List (Nat × Nat) := [(0xE000, 0xF8FF), (0xF0000, 0xFFFFD), (0x100000, 0x10FFFD)]

def Noncharacter (n : Nat) : Prop := 0xFDD0 ≤ n ∧ n ≤ 0xFDEF ∨ 0xFFFE ≤ n % 0x10000

end Category

structure Seen (c : Char) : Prop where
  control : inRanges Category.control c.toNat = false
  separator : inRanges Category.separator c.toNat = true → c = ' '
  format : inRanges Category.format c.toNat = false
  privateUse : inRanges Category.privateUse c.toNat = false
  noncharacter : ¬Category.Noncharacter c.toNat

theorem inRanges_iff {ranges : List (Nat × Nat)} {n : Nat} :
    inRanges ranges n = true ↔ ∃ r ∈ ranges, r.1 ≤ n ∧ n ≤ r.2 := by
  simp [inRanges]

def Within (rs rs' : List (Nat × Nat)) : Prop := ∀ r ∈ rs, ∃ r' ∈ rs', r'.1 ≤ r.1 ∧ r.2 ≤ r'.2

theorem Within.inRanges {rs rs' : List (Nat × Nat)} (h : Within rs rs') {n : Nat}
    (hn : inRanges rs n = true) : inRanges rs' n = true := by
  obtain ⟨r, hr, hlow, hhigh⟩ := inRanges_iff.1 hn
  obtain ⟨r', hr', hlow', hhigh'⟩ := h r hr
  exact inRanges_iff.2 ⟨r', hr', hlow'.trans hlow, hhigh.trans hhigh'⟩

theorem Within.not_inRanges {rs rs' : List (Nat × Nat)} (h : Within rs rs') {n : Nat}
    (hn : Text.inRanges rs' n = false) : Text.inRanges rs n = false :=
  Bool.eq_false_iff.2 fun hr => Bool.eq_false_iff.1 hn (h.inRanges hr)

theorem inRanges_append_eq_false {rs rs' : List (Nat × Nat)} {n : Nat} (h : inRanges rs n = false)
    (h' : inRanges rs' n = false) : inRanges (rs ++ rs') n = false := by
  rw [inRanges] at *
  rw [List.any_append, h, h']
  rfl

theorem seen_of_isPrintable {c : Char} (h : isPrintable c = true) : Seen c := by
  rw [isPrintable, Bool.or_eq_true, beq_iff_eq] at h
  rcases h with rfl | h
  · exact ⟨rfl, fun _ => rfl, rfl, rfl, by simp [Category.Noncharacter]⟩
  simp only [Bool.not_eq_true', Bool.or_eq_false_iff] at h
  obtain ⟨⟨⟨⟨hcontrol, hblank⟩, hformat⟩, hprivate⟩, hnon⟩ := h
  have hseparators : Within Category.separator blanks := by unfold Within; decide
  have hformats : Within Category.format (blanks ++ formats) := by unfold Within; decide
  have hprivates : Within Category.privateUse privateUse := by unfold Within; decide
  refine ⟨hcontrol, fun hseparator => ?_, ?_, hprivates.not_inRanges hprivate, ?_⟩
  · rw [hseparators.inRanges hseparator] at hblank
    cases hblank
  · exact hformats.not_inRanges (inRanges_append_eq_false hblank hformat)
  · simp only [isNoncharacter, inRanges, List.any_cons, List.any_nil, Bool.or_eq_false_iff,
      Bool.and_eq_false_iff, decide_eq_false_iff_not, beq_eq_false_iff_ne] at hnon
    unfold Category.Noncharacter
    omega

theorem Seen.isControl {c : Char} (h : Seen c) : Http.isControl c = false := by
  have hcontrol := h.control
  simp only [inRanges, Category.control, List.any_cons, List.any_nil, Bool.or_eq_false_iff,
    Bool.and_eq_false_iff, decide_eq_false_iff_not] at hcontrol
  rw [isControl_eq_false_iff]
  omega

theorem isPrintable_of_ascii {c : Char} (hlow : 0x20 ≤ c.toNat) (hhigh : c.toNat < 0x7F) :
    isPrintable c = true := by
  rw [← Char.ofNat_toNat c]
  exact (by decide : ∀ n < 0x7F, 0x20 ≤ n → isPrintable (Char.ofNat n) = true) _ hhigh hlow

theorem seen_of_ascii {c : Char} (hlow : 0x20 ≤ c.toNat) (hhigh : c.toNat < 0x7F) : Seen c :=
  seen_of_isPrintable (isPrintable_of_ascii hlow hhigh)

inductive Written (c : Char) : List Char → Prop
  | short {e} : shortEscape c = some e → Written c ['\\', e]
  | plain : shortEscape c = none → isPrintable c = true → Written c [c]
  | byte : c.toNat < 0x20 ∨ c.toNat = 0x7F → Written c ('\\' :: 'x' :: Hex.padded 2 c.toNat)
  | point {e width} : isPrintable c = false → (e, width) ∈ [('u', 4), ('U', 8)] →
    Written c ('\\' :: e :: Hex.padded width c.toNat)

theorem written_escapeChar (c : Char) : Written c (escapeChar c) := by
  unfold escapeChar
  split
  next e he => exact .short he
  next hnone =>
    split
    next hcontrol => exact .byte (by simpa using hcontrol)
    next =>
      split
      next hprint => exact .plain hnone hprint
      next hprint =>
        rw [Bool.not_eq_true] at hprint
        split
        · exact .point hprint (by simp)
        · exact .point hprint (by simp)

def beforeQuote : List Char → Option Nat
  | [] => none
  | '"' :: _ => some 0
  | '\\' :: _ :: rest => (beforeQuote rest).map (· + 2)
  | _ :: rest => (beforeQuote rest).map (· + 1)

def closing? : List Char → Option Nat
  | '"' :: rest => (beforeQuote rest).map (· + 1)
  | _ => none

def Passed (cs : List Char) : Prop :=
  ∀ rest, beforeQuote (cs ++ rest) = (beforeQuote rest).map (· + cs.length)

namespace Passed

theorem nil : Passed [] := fun rest => by simp

theorem append {cs ds : List Char} (h : Passed cs) (h' : Passed ds) : Passed (cs ++ ds) := by
  intro rest
  rw [List.append_assoc, h, h', Option.map_map, List.length_append]
  congr 1
  funext n
  simp only [Function.comp_apply]
  omega

theorem flatMap {α : Type} {f : α → List Char} {as : List α} (h : ∀ a ∈ as, Passed (f a)) :
    Passed (as.flatMap f) := by
  induction as with
  | nil => exact nil
  | cons a as ih =>
    rw [List.forall_mem_cons] at h
    exact h.1.append (ih h.2)

theorem plain {cs : List Char} (h : ∀ c ∈ cs, c ≠ '"' ∧ c ≠ '\\') : Passed cs := by
  induction cs with
  | nil => exact nil
  | cons c cs ih =>
    obtain ⟨⟨hq, hb⟩, hcs⟩ := List.forall_mem_cons.1 h
    intro rest
    rw [List.cons_append, beforeQuote, ih hcs, Option.map_map]
    · rfl
    · exact hq
    · exact fun _ _ hc => absurd hc hb

theorem hidden (c : Char) : Passed ['\\', c] := fun rest => by
  simp [beforeQuote]

theorem padded (width n : Nat) : Passed (Hex.padded width n) := plain fun c hc => by
  obtain ⟨d, hd, rfl⟩ := Hex.mem_padded hc
  exact (by decide : ∀ d < 16, Nat.digitChar d ≠ '"' ∧ Nat.digitChar d ≠ '\\') d hd

theorem hex (e : Char) (width n : Nat) : Passed ('\\' :: e :: Hex.padded width n) :=
  (hidden e).append (padded width n)

end Passed

theorem passed_escapeChar (c : Char) : Passed (escapeChar c) := by
  have hwritten := written_escapeChar c
  generalize escapeChar c = cs at hwritten
  cases hwritten with
  | short => exact .hidden _
  | plain hnone => exact .plain (List.forall_mem_singleton.2 (ne_of_shortEscape hnone))
  | byte | point => exact .hex _ _ _

theorem passed_escapePiece (p : Utf8.Piece) : Passed (escapePiece p) := by
  cases p with
  | char c => exact passed_escapeChar c
  | stray bs => exact .flatMap fun b _ => .hex 'x' 2 b.toNat

theorem closing?_quoteBytes (bs : Bytes) (rest : List Char) :
    closing? (quoteBytes bs ++ rest) = some ((quoteBytes bs).length - 1) := by
  have hpassed : Passed (escape bs) := .flatMap fun p _ => passed_escapePiece p
  have hlength : (quoteBytes bs).length = (escape bs).length + 2 := by simp [quoteBytes]
  rw [hlength, quoteBytes, List.cons_append, List.append_assoc, closing?, hpassed]
  simp [beforeQuote]

def AllSeen (cs : List Char) : Prop := ∀ c ∈ cs, Seen c

namespace AllSeen

variable {cs ds : List Char}

@[simp] theorem nil : AllSeen [] := nofun

@[simp] theorem cons_iff {c : Char} : AllSeen (c :: cs) ↔ Seen c ∧ AllSeen cs :=
  List.forall_mem_cons

@[simp] theorem append_iff : AllSeen (cs ++ ds) ↔ AllSeen cs ∧ AllSeen ds := List.forall_mem_append

theorem flatMap {α : Type} {f : α → List Char} (h : ∀ a, AllSeen (f a)) (as : List α) :
    AllSeen (as.flatMap f) := by
  intro c hc
  obtain ⟨a, -, ha⟩ := List.mem_flatMap.1 hc
  exact h a c ha

theorem padded (width n : Nat) : AllSeen (Hex.padded width n) := by
  intro c hc
  obtain ⟨d, hd, rfl⟩ := Hex.mem_padded hc
  have hascii : ∀ d < 16, 0x20 ≤ (Nat.digitChar d).toNat ∧
      (Nat.digitChar d).toNat < 0x7F := by decide
  exact seen_of_ascii (hascii d hd).1 (hascii d hd).2

theorem hex {e : Char} (he : Seen e) (width n : Nat) : AllSeen ('\\' :: e :: Hex.padded width n) :=
  cons_iff.2 ⟨seen_of_ascii (by decide) (by decide), cons_iff.2 ⟨he, padded width n⟩⟩

end AllSeen

theorem seen_of_shortEscape {c e : Char} (h : shortEscape c = some e) : Seen e := by
  unfold shortEscape at h
  split at h <;> cases h <;> exact seen_of_ascii (by decide) (by decide)

theorem allSeen_escapeChar (c : Char) : AllSeen (escapeChar c) := by
  have hwritten := written_escapeChar c
  generalize escapeChar c = cs at hwritten
  cases hwritten with
  | short he => exact .hex (seen_of_shortEscape he) 0 0
  | plain _ hprint => exact AllSeen.cons_iff.2 ⟨seen_of_isPrintable hprint, .nil⟩
  | byte => exact .hex (seen_of_ascii (by decide) (by decide)) 2 _
  | point _ he =>
    refine .hex ?_ _ _
    rcases List.mem_pair.1 he with he | he <;> cases he
      <;> exact seen_of_ascii (by decide) (by decide)

theorem allSeen_escapePiece (p : Utf8.Piece) : AllSeen (escapePiece p) := by
  cases p with
  | char c => exact allSeen_escapeChar c
  | stray bs =>
    have hx : Seen 'x' := seen_of_ascii (by decide) (by decide)
    exact .flatMap (fun b => .hex hx 2 b.toNat) bs

theorem allSeen_quoteBytes (bs : Bytes) : AllSeen (quoteBytes bs) := by
  have hq : Seen '"' := seen_of_ascii (by decide) (by decide)
  simp only [quoteBytes, escape, AllSeen.cons_iff, AllSeen.append_iff, AllSeen.nil, hq,
    AllSeen.flatMap allSeen_escapePiece, and_self]

theorem clear_quoteBytes (bs : Bytes) : Clear (quoteBytes bs) :=
  fun c hc => (allSeen_quoteBytes bs c hc).isControl

/-- A quoted field opens with a quote, shows nothing that is not seen, and is closed by its last
character, whatever text follows. -/
theorem quotation_delimited (bs : Bytes) :
    (quoteBytes bs).head? = some '"' ∧ (quoteBytes bs).getLast? = some '"' ∧
      (∀ c ∈ quoteBytes bs, Seen c) ∧
      ∀ rest, closing? (quoteBytes bs ++ rest) = some ((quoteBytes bs).length - 1) :=
  ⟨rfl, List.getLast?_concat (l := '"' :: escape bs), allSeen_quoteBytes bs, closing?_quoteBytes bs⟩

end AccessTrail.Text
