import AccessTrail.Proofs.Log.Writer
import Mathlib.Data.List.DropRight

namespace AccessTrail

def IsLine (bs : Bytes) : Prop := ∃ line, 0x0A ∉ line ∧ bs = line ++ [0x0A]

def BetweenLines (bs : Bytes) : Prop := bs = [] ∨ bs.getLast? = some 0x0A
  deriving Decidable

theorem IsLine.betweenLines {bs : Bytes} (h : IsLine bs) (earlier : Bytes) :
    BetweenLines (earlier ++ bs) := by
  obtain ⟨line, -, rfl⟩ := h
  exact .inr (by simp)

theorem IsLine.no_end_of_prefix {bs part : Bytes} (h : IsLine bs) (hpart : part <+: bs)
    (hne : part ≠ bs) :
    0x0A ∉ part := by
  obtain ⟨line, hline, rfl⟩ := h
  obtain hall | hpart := List.prefix_concat_iff.1 hpart
  · exact absurd hall hne
  · exact fun hmem => hline (hpart.subset hmem)

theorem betweenLines_append_iff {earlier part : Bytes} (hearlier : BetweenLines earlier)
    (hpart : 0x0A ∉ part) :
    BetweenLines (earlier ++ part) ↔ part = [] := by
  constructor
  · rintro (hnil | hlast)
    · exact (List.append_eq_nil_iff.1 hnil).2
    · by_contra hne
      rw [List.getLast?_append_of_ne_nil _ hne] at hlast
      exact hpart (List.mem_of_getLast? hlast)
  · rintro rfl
    rwa [List.append_nil]

namespace WriterLog

namespace Appending

def truncated (a : Appending) : Bool := a.stored != a.record

theorem no_end_of_truncated {a : Appending} (hline : IsLine a.record) (h : a.truncated) :
    0x0A ∉ a.stored :=
  hline.no_end_of_prefix a.stored_prefix (by simpa [truncated] using h)

end Appending

def closed (as : List Appending) : Bytes := (as.rdropWhile (·.truncated)).flatMap (·.stored)

def leftover (as : List Appending) : Bytes := (as.rtakeWhile (·.truncated)).flatMap (·.stored)

theorem no_end_leftover {as : List Appending} (hlines : ∀ a ∈ as, IsLine a.record) :
    0x0A ∉ leftover as := by
  rw [leftover, List.mem_flatMap]
  rintro ⟨a, ha, hmem⟩
  have hline : IsLine a.record := hlines a ((List.rtakeWhile_suffix _ _).subset ha)
  exact Appending.no_end_of_truncated hline (List.mem_rtakeWhile_imp ha) hmem

theorem stored_split (as : List Appending) : as.flatMap (·.stored) = closed as ++ leftover as := by
  rw [closed, leftover, ← List.flatMap_append, List.rdropWhile_append_rtakeWhile]

theorem betweenLines_closed {as : List Appending} (hlines : ∀ a ∈ as, IsLine a.record) :
    BetweenLines (closed as) := by
  induction as using List.reverseRecOn with
  | nil => exact .inl rfl
  | append_singleton as a ih =>
    rw [closed, List.rdropWhile_concat]
    split
    · exact ih fun b hb => hlines b (List.mem_append_left _ hb)
    next hwhole =>
      have hstored : a.stored = a.record := by simpa [Appending.truncated] using hwhole
      rw [List.flatMap_append, List.flatMap_singleton, hstored]
      exact (hlines a (by simp)).betweenLines _

theorem appendAll_append (l : WriterLog) (rs rs' : List Bytes) :
    l.appendAll (rs ++ rs') = (l.appendAll rs).appendAll rs' :=
  List.foldl_append

/-- Records of one line each go to an empty log. In the end a record that was kept closes a line
which opens with whatever was left over before it, so the line is its own exactly when that is
nothing. -/
theorem line_of_kept {l : WriterLog} {before after : List Bytes} {record : Bytes}
    (hempty : l.bytes = []) (hlines : ∀ r ∈ before ++ [record], IsLine r)
    (hkept : ((l.appendAll before).append record).1 = .kept) :
    let left := leftover (l.appendings before)
    ∃ lines rest,
      BetweenLines lines ∧ 0x0A ∉ left ∧ (l.appendAll before).bytes = lines ++ left ∧
      (l.appendAll (before ++ record :: after)).bytes = lines ++ (left ++ record) ++ rest ∧
      (BetweenLines (lines ++ left) ↔ left = []) := by
  intro left
  have hbefore : ∀ a ∈ l.appendings before, IsLine a.record := by
    intro a ha
    have hmem : a.record ∈ (l.appendings before).map (·.record) := List.mem_map_of_mem ha
    exact hlines _ (List.mem_append_left _ (record_appendings before l ▸ hmem))
  have hclosed := betweenLines_closed hbefore
  have hleft : 0x0A ∉ left := no_end_leftover hbefore
  have hbytes : (l.appendAll before).bytes = closed (l.appendings before) ++ left := by
    rw [bytes_appendAll, hempty, List.nil_append, stored_split]
  let a : Appending := ⟨l.appendAll before, record⟩
  have hrecord : a.after.bytes = (l.appendAll before).bytes ++ record := by
    rw [a.bytes_after, a.stored_of_whole (.inl hkept)]
  refine ⟨closed (l.appendings before), (a.after.appendings after).flatMap (·.stored), hclosed,
    hleft, hbytes, ?_, betweenLines_append_iff hclosed hleft⟩
  calc (l.appendAll (before ++ record :: after)).bytes = (a.after.appendAll after).bytes := by
        rw [appendAll_append]
        rfl
    _ = _ := by rw [bytes_appendAll, hrecord, hbytes, List.append_assoc _ left]

theorem line_of_kept_after_crash :
    let l : WriterLog := { answers := [.take none, .crash (some 3)] }
    let before : List Bytes := [[0x61, 0x0A], [0x61, 0x62, 0x63, 0x20, 0x64, 0x0A]]
    let record : Bytes := [0x6E, 0x6F, 0x77, 0x0A]
    ((l.appendAll before).append record).1 = .kept ∧
      leftover (l.appendings before) = [0x61, 0x62, 0x63] ∧
      ∃ lines rest,
        (l.appendAll (before ++ record :: [[0x0A]])).bytes =
          lines ++ ([0x61, 0x62, 0x63] ++ record) ++ rest ∧
        ¬ BetweenLines (lines ++ [0x61, 0x62, 0x63]) := by
  intro l before record
  have hlines : ∀ r ∈ before ++ [record], IsLine r := by
    intro r hr
    obtain rfl | rfl | rfl : r = [0x61, 0x0A] ∨ r = [0x61, 0x62, 0x63, 0x20, 0x64, 0x0A] ∨
      r = record := by
      simpa [before] using hr
    exacts [⟨[0x61], by decide⟩, ⟨[0x61, 0x62, 0x63, 0x20, 0x64], by decide⟩,
      ⟨[0x6E, 0x6F, 0x77], by decide⟩]
  have hkept : ((l.appendAll before).append record).1 = .kept := by decide
  obtain ⟨lines, rest, -, -, -, hbytes, hiff⟩ :=
    @line_of_kept l before [[0x0A]] record rfl hlines hkept
  exact ⟨hkept, by decide, lines, rest, hbytes, hiff.not.2 (by decide)⟩

/-- The record after one that was broken off is not a line anywhere in the log. -/
theorem not_line_after_crash :
    ¬ ∀ (l : WriterLog) (rs : List Bytes), l.bytes = [] → (∀ r ∈ rs, IsLine r) →
      ∀ a ∈ l.appendings rs, a.outcome = .kept →
        ∃ earlier later, (l.appendAll rs).bytes = earlier ++ a.record ++ later ∧
        BetweenLines earlier := by
  intro hall
  let l : WriterLog := { answers := [.crash (some 3)] }
  let torn : Bytes := [0x61, 0x62, 0x63, 0x20, 0x64, 0x65, 0x66, 0x0A]
  let next : Bytes := [0x6E, 0x65, 0x78, 0x74, 0x0A]
  have hlines : ∀ r ∈ [torn, next], IsLine r := by
    intro r hr
    obtain rfl | rfl : r = torn ∨ r = next := by simpa using hr
    exacts [⟨torn.dropLast, by decide⟩, ⟨next.dropLast, by decide⟩]
  obtain ⟨earlier, later, hbytes, hstart⟩ :=
    hall l [torn, next] rfl hlines ⟨(l.append torn).2, next⟩ (by simp [appendings]) (by decide)
  have hstored : [0x61, 0x62, 0x63] ++ next = earlier ++ (next ++ later) := by
    rw [← List.append_assoc, ← hbytes]
    decide
  have hnowhere : ∀ n < 9, next <+: ([0x61, 0x62, 0x63] ++ next).drop n →
      ¬ BetweenLines (([0x61, 0x62, 0x63] ++ next).take n) := by
    decide
  refine hnowhere earlier.length ?_ ?_ ?_
  · have hlength : 8 = earlier.length + (next ++ later).length := by
      rw [← List.length_append, ← hstored]
      rfl
    omega
  · rw [hstored, List.drop_left]
    exact List.prefix_append _ _
  · rwa [hstored, List.take_left]

end WriterLog

end AccessTrail
