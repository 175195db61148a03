import AccessTrail.Proofs.Text.Quoted
import AccessTrail.Proofs.Visible
import AccessTrail.Record

namespace AccessTrail.Record

/-- The parts of a record that nothing else keeps free of spaces. -/
structure Legible (r : Record) : Prop where
  stamp : ' ' ∉ r.stamp.toList
  host : ' ' ∉ Net.hostChars r.visit.peer.toList
  ratio : ' ' ∉ r.entry.ratio.toList

theorem word?_append {w : List Char} (h : ' ' ∉ w) (rest : List Char) :
    word? (w ++ ' ' :: rest) = some (w, rest) := by
  have hw : ∀ c ∈ w, (c != ' ') = true := by
    intro c hc
    rw [bne_iff_ne]
    rintro rfl
    exact h hc
  rw [word?, List.dropWhile_append_of_pos hw, List.takeWhile_append_of_pos hw]
  simp

theorem all_isDigit_number (n : Nat) : (number n).all (·.isDigit) = true :=
  List.all_eq_true.2 fun _ hc => Nat.isDigit_of_mem_toDigits (by decide) (by decide) hc

theorem space_not_mem_number (n : Nat) : ' ' ∉ number n := by
  intro h
  exact absurd (List.all_eq_true.1 (all_isDigit_number n) ' ' h) (by decide)

theorem number?_number (n : Nat) : number? (number n) = some n := by
  have hne : (number n).isEmpty = false := List.isEmpty_eq_false_iff.2 Nat.toDigits_ne_nil
  have hfold : (number n).foldl (fun n c => n * 10 + (c.toNat - '0'.toNat)) 0 = n := by
    have h := Nat.ofDigitChars_ten_toDigits (n := n)
    simp only [Nat.ofDigitChars, Nat.mul_comm 10] at h
    exact h
  rw [number?, hne, all_isDigit_number, hfold]
  rfl

theorem unwrap?_wrapped (cs : List Char) : unwrap? ('"' :: (cs ++ ['"'])) = some cs := by
  simp [unwrap?]

theorem quoted?_quoteBytes (bs : Bytes) (rest : List Char) :
    quoted? (Text.quoteBytes bs ++ rest) = some (bs, rest) := by
  rw [Text.quoteBytes, List.cons_append, List.append_assoc, quoted?]
  exact Text.readQuoted_escape bs rest

theorem bind_of_eq_some {α β : Type} {x : Option α} {a : α} (h : x = some a) {f : α → Option β} :
    (x >>= f) = f a := by
  rw [h]
  rfl

theorem read?_chars {r : Record} (h : r.Legible) : read? r.chars = some r.fields := by
  have hm : ' ' ∉ r.visit.method.chars := Text.space_not_mem r.visit.method.all_visible
  have hu : ' ' ∉ '"' :: (r.visit.uri.chars ++ ['"']) := by
    simp [Text.space_not_mem r.visit.uri.all_visible]
  have hline : r.chars =
      r.stamp.toList ++ ' ' :: (Net.hostChars r.visit.peer.toList ++ ' ' ::
        (r.visit.method.chars ++ ' ' :: (('"' :: (r.visit.uri.chars ++ ['"'])) ++ ' ' ::
        (number r.entry.status.toNat ++ ' ' :: (number r.entry.elapsed.millis ++ ' ' ::
        (number r.entry.bytes.toNat ++ ' ' :: (r.entry.ratio.toList ++ ' ' ::
        (Text.quoteBytes r.visit.userAgent ++ ' ' ::
        (Text.quoteBytes (Utf8.ofString r.entry.message) ++ ['\n']))))))))) := by
    simp only [chars, Text.quote, List.cons_append, List.append_assoc, List.nil_append]
  rw [hline, read?]
  refine (bind_of_eq_some (word?_append h.stamp _)).trans ?_
  refine (bind_of_eq_some (word?_append h.host _)).trans ?_
  refine (bind_of_eq_some (word?_append hm _)).trans ?_
  refine (bind_of_eq_some (word?_append hu _)).trans ?_
  refine (bind_of_eq_some (word?_append (space_not_mem_number _) _)).trans ?_
  refine (bind_of_eq_some (word?_append (space_not_mem_number _) _)).trans ?_
  refine (bind_of_eq_some (word?_append (space_not_mem_number _) _)).trans ?_
  refine (bind_of_eq_some (word?_append h.ratio _)).trans ?_
  refine (bind_of_eq_some (quoted?_quoteBytes _ _)).trans ?_
  refine (bind_of_eq_some (quoted?_quoteBytes _ _)).trans ?_
  refine (bind_of_eq_some (unwrap?_wrapped _)).trans ?_
  refine (bind_of_eq_some (number?_number _)).trans ?_
  refine (bind_of_eq_some (number?_number _)).trans ?_
  exact bind_of_eq_some (number?_number _)

theorem legible_of_request {stamp : String} {e : Entry} (q : Http.Request)
    (hs : ' ' ∉ stamp.toList) (hr : ' ' ∉ e.ratio.toList) : Legible ⟨stamp, q.visit, e⟩ where
  stamp := hs
  host := Text.space_not_mem q.all_visible_host
  ratio := hr

theorem millis_lt (d : Duration) : d.millis < 2 ^ 128 := by
  have hs := d.secs.toNat_lt
  have hn := d.nanos.toNat_lt
  rw [Duration.millis]
  omega

/-- A line is read back to its fields, and legible records with one line agree in all they show. -/
theorem line_decodable (r : Record) (h : r.Legible) :
    read? r.line.toList = some r.fields ∧
      r.fields =
        { stamp := r.stamp.toList
          host := Net.hostChars r.visit.peer.toList
          method := r.visit.method.chars
          uri := r.visit.uri.chars
          status := r.entry.status.toNat
          millis := r.entry.elapsed.secs.toNat * 1000 + r.entry.elapsed.nanos.toNat / 1000000
          bytes := r.entry.bytes.toNat
          ratio := r.entry.ratio.toList
          userAgent := r.visit.userAgent
          message := Utf8.ofString r.entry.message } ∧
      r.entry.elapsed.secs.toNat * 1000 + r.entry.elapsed.nanos.toNat / 1000000 < 2 ^ 128 ∧
      ∀ r' : Record, r'.Legible → r'.line = r.line →
        r'.fields = r.fields ∧ r'.entry.message = r.entry.message := by
  refine ⟨?_, rfl, millis_lt _, ?_⟩
  · rw [line, String.toList_ofList, read?_chars h]
  · intro r' h' hline
    have hfields : r'.fields = r.fields := by
      apply Option.some_injective
      rw [← read?_chars h', ← read?_chars h, String.ofList_injective hline]
    exact ⟨hfields, Utf8.ofString_injective (congrArg Fields.message hfields)⟩

theorem line_decodable_of_marks :
    let q : Http.Request :=
      { uri := .origin ⟨['/', '"', '\\'], none, by decide, by decide⟩
        headers := Http.Headers.set "user-agent" [0xFF, 0x22, 0x20] {} }
    let record := fun elapsed : Duration =>
      (⟨"T", q.visit, { status := 500, elapsed, message := "no \" here" }⟩ : Record)
    (∀ d, (record d).Legible) ∧
      read? (record ⟨1, 2999999⟩).line.toList = some
        { stamp := ['T'], host := [], method := ['G', 'E', 'T'], uri := ['/', '"', '\\']
          status := 500, millis := 1002, bytes := 0, ratio := ['-']
          userAgent := [0xFF, 0x22, 0x20], message := Utf8.ofString "no \" here" } ∧
      (record ⟨1, 3000000⟩).line ≠ (record ⟨1, 2999999⟩).line := by
  intro q record
  have hratio : ' ' ∉ "-".toList := by decide
  have h : ∀ d, (record d).Legible := fun _ => legible_of_request q (by decide) hratio
  obtain ⟨hread, hfields, -, hsame⟩ := line_decodable (record ⟨1, 2999999⟩) (h _)
  refine ⟨h, ?_, fun hline => ?_⟩
  · rw [hread, hfields]
    decide +kernel
  · exact absurd (congrArg Fields.millis (hsame _ (h _) hline).1) (by decide)

end AccessTrail.Record
