import AccessTrail.Log.Memory
import AccessTrail.Observer
import AccessTrail.Proofs.Text.Delimited
import AccessTrail.Proofs.Text.Utf8
import AccessTrail.Record

namespace AccessTrail

open Text (Clear)

namespace Record

def isStampChar (c : Char) : Bool := c.isDigit || "-:+TZ".toList.contains c

structure OfRequest (r : Record) : Prop where
  stamp : r.stamp.toList.all isStampChar = true
  visit : ∃ q : Http.Request, r.visit = q.visit
  ratio : r.entry.ratio = Ratio.none ∨ ∃ t : Tally, r.entry.ratio = t.ratio

theorem isStampChar_visible {c : Char} (h : isStampChar c = true) : Text.isVisible c = true := by
  apply Http.alnum_or_mark_visible (by decide : "-:+TZ".toList.all Text.isVisible = true)
  rw [isStampChar, Bool.or_eq_true] at h
  rw [Bool.or_eq_true, Http.isAsciiAlnum]
  refine h.imp (fun hd => ?_) id
  rw [Char.isDigit] at hd
  simp only [Bool.and_eq_true, decide_eq_true_eq] at hd
  simp only [Bool.or_eq_true, Bool.and_eq_true, decide_eq_true_eq]
  exact .inl (.inl hd)

theorem clear_number (n : Nat) : Clear (number n) :=
  .of_visible (Text.all_visible_toDigits (by decide) (by decide) n)

theorem chars_eq_clear {r : Record} (h : r.OfRequest) :
    ∃ cs, r.chars = cs ++ ['\n'] ∧ Clear cs := by
  have hstamp : Clear r.stamp.toList :=
    .of_visible (Text.all_visible_of_all (fun _ => isStampChar_visible) h.stamp)
  have hhost : Clear (Net.hostChars r.visit.peer.toList) := by
    obtain ⟨q, hq⟩ := h.visit
    rw [hq]
    exact .of_visible q.all_visible_host
  have hratio : Clear r.entry.ratio.toList := by
    rcases h.ratio with hr | ⟨t, hr⟩ <;> rw [hr]
    · exact .of_visible (by decide)
    · exact .of_visible (Ratio.all_visible_text _ _)
  have hmethod : Clear r.visit.method.chars := .of_visible r.visit.method.all_visible
  have huri : Clear r.visit.uri.chars := .of_visible r.visit.uri.all_visible
  have hspace : Http.isControl ' ' = false := rfl
  have hquote : Http.isControl '"' = false := rfl
  refine ⟨r.stamp.toList ++
    ' ' :: (Net.hostChars r.visit.peer.toList ++
    ' ' :: (r.visit.method.chars ++
    ' ' :: '"' :: (r.visit.uri.chars ++
    '"' :: ' ' :: (number r.entry.status.toNat ++
    ' ' :: (number r.entry.elapsed.millis ++
    ' ' :: (number r.entry.bytes.toNat ++
    ' ' :: (r.entry.ratio.toList ++
    ' ' :: (Text.quoteBytes r.visit.userAgent ++
    ' ' :: Text.quote r.entry.message)))))))), ?_, ?_⟩
  · simp only [chars, List.append_assoc, List.cons_append]
  · simp only [Clear.append_iff, Clear.cons_iff, Text.quote, hstamp, hhost, hmethod, huri, hratio,
      clear_number, Text.clear_quoteBytes, hspace, hquote, and_self]

end Record

namespace MemoryLog

theorem bytes_appended (rs : List Record) (l : MemoryLog) :
    (rs.foldl (fun l r => (Log.append r.bytes l).2) l).bytes =
      l.bytes ++ Utf8.encode (rs.flatMap Record.chars) := by
  induction rs generalizing l with
  | nil => simp [Utf8.encode]
  | cons r rs ih =>
    rw [List.foldl_cons, ih]
    simp only [Log.append, Record.bytes, Utf8.encode, List.flatMap_cons, List.flatMap_append,
      List.append_assoc]

/-- Every record is one line of the log, in the order in which they were appended, and only the line
feed at its end is a control. -/
theorem lines_of_records (rs : List Record) (h : ∀ r ∈ rs, r.OfRequest) :
    (rs.foldl (fun l r => (Log.append r.bytes l).2) ({} : MemoryLog)).lines =
        rs.map (·.line.toList.dropLast) ∧
      ∀ r ∈ rs, r.line.toList.getLast? = some '\n' ∧
        ∀ c ∈ r.line.toList.dropLast, Http.isControl c = false := by
  have hclear : ∀ r ∈ rs, r.line.toList = r.line.toList.dropLast ++ ['\n'] ∧
      Clear r.line.toList.dropLast := by
    intro r hr
    obtain ⟨cs, hcs, hc⟩ := Record.chars_eq_clear (h r hr)
    rw [Record.line, String.toList_ofList, hcs, List.dropLast_concat]
    exact ⟨rfl, hc⟩
  constructor
  · have hchars : rs.flatMap Record.chars =
        (rs.map (·.line.toList.dropLast)).flatMap (· ++ ['\n']) := by
      rw [List.flatMap_map]
      apply List.flatMap_congr
      intro r hr
      rw [← (hclear r hr).1, Record.line, String.toList_ofList]
    rw [lines, contents, bytes_appended, List.nil_append, Utf8.lossy_encode, hchars]
    apply Text.lines_flatMap
    simpa using fun r hr => (hclear r hr).2
  · intro r hr
    obtain ⟨hline, hc⟩ := hclear r hr
    refine ⟨?_, hc⟩
    rw [hline, List.getLast?_concat]

theorem lines_of_forged_records :
    let q : Http.Request :=
      { uri := .origin ⟨['/', '"', '\\'], none, by decide, by decide⟩
        headers := Http.Headers.set "user-agent" [0x22, 0x0A, 0x85, 0x0D] {} }
    let t : Tally := { produced := 5, sent := 2 }
    let rs : List Record := ["a\r\nb\x7f", ""].map fun message =>
      ⟨"2026-01-01T00:00:00+02:00", q.visit, { status := 500, ratio := t.ratio, message }⟩
    (∀ r ∈ rs, r.OfRequest) ∧
      (rs.foldl (fun l r => (Log.append r.bytes l).2) ({} : MemoryLog)).lines =
        rs.map (·.line.toList.dropLast) := by
  intro q t rs
  have hr : ∀ r ∈ rs, r.OfRequest := by
    intro r hr
    obtain ⟨message, -, rfl⟩ := List.mem_map.1 hr
    exact ⟨(by decide : "2026-01-01T00:00:00+02:00".toList.all Record.isStampChar = true), ⟨q, rfl⟩,
      .inr ⟨t, by dsimp only⟩⟩
  exact ⟨hr, (lines_of_records rs hr).1⟩

end MemoryLog

end AccessTrail
