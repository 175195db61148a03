import AccessTrail.Proofs.Net.Address
import AccessTrail.Proofs.Net.Decimal

namespace AccessTrail.Net

structure Closes (rest : List Char) : Prop where
  stops : Stops rest
  noColon : ':' ∉ rest.head?

def leaving {α : Type} (rest : List Char) (r : α × List Char) : α × List Char := (r.1, r.2 ++ rest)

section Append

variable {rest : List Char}

theorem readChar_append {c : Char} (h : c ∉ rest.head?) (cs : List Char) :
    readChar c (cs ++ rest) = (readChar c cs).map (· ++ rest) := by
  cases cs with
  | nil => exact readChar_eq_none h
  | cons x cs =>
    rw [List.cons_append, readChar, readChar]
    split <;> rfl

theorem readNumber_append {radix : Nat} (h : ∀ c ∈ rest.head?, digitBelow radix c = none)
    (bound : Nat) (cs : List Char) :
    readNumber radix bound (cs ++ rest) =
      (readNumber radix bound cs).map fun r => (r.1, leaving rest r.2) := by
  have hdigit : ∀ c ∈ rest.head?, (digitBelow radix c).isSome = false :=
    fun c hc => by rw [h c hc]; rfl
  rw [readNumber, readNumber, takeWhile_append_of_head hdigit, dropWhile_append_of_head hdigit,
    apply_ite (Option.map _)]
  rfl

variable (h : Stops rest)
include h

theorem readOctet_append (cs : List Char) :
    readOctet (cs ++ rest) = (readOctet cs).map (leaving rest) := by
  rw [readOctet, readOctet, readNumber_append fun _ => h.not_digit 10]
  cases readNumber 10 256 cs with
  | none => rfl
  | some r =>
    simp only [Option.map_some, apply_ite (Option.map (leaving rest))]
    rfl

theorem readGroup_append (cs : List Char) :
    readGroup (cs ++ rest) = (readGroup cs).map (leaving rest) := by
  rw [readGroup, readGroup, readNumber_append fun _ => h.not_digit 16]
  cases readNumber 16 65536 cs with
  | none => rfl
  | some r =>
    simp only [Option.map_some, apply_ite (Option.map (leaving rest))]
    rfl

theorem readIpv4_append (cs : List Char) :
    readIpv4 (cs ++ rest) = (readIpv4 cs).map (leaving rest) := by
  have hdot : '.' ∉ rest.head? := fun hc => (h '.' hc).2 rfl
  simp only [readIpv4, readOctet_append h, readChar_append hdot, Option.bind_eq_bind,
    Option.bind_map, Option.map_bind, Function.comp_def, leaving, Option.pure_def, Option.map_some]

end Append

variable {rest : List Char}

theorem readGroups_append (h : Closes rest) (room : Nat) (first : Bool) (cs : List Char) :
    readGroups room first (cs ++ rest) =
      let g := readGroups room first cs
      ⟨g.values, g.dotted, g.rest ++ rest⟩ := by
  induction room generalizing first cs with
  | zero => rfl
  | succ room ih =>
    have hbody : (if first then some (cs ++ rest) else readChar ':' (cs ++ rest)) =
        (if first then some cs else readChar ':' cs).map (· ++ rest) := by
      cases first with
      | true => rfl
      | false => exact readChar_append h.noColon cs
    rw [readGroups, readGroups, hbody]
    cases (if first then some cs else readChar ':' cs) with
    | none => rfl
    | some body =>
      have hquad : (if room = 0 then none else readIpv4 (body ++ rest)) =
          (if room = 0 then none else readIpv4 body).map (leaving rest) := by
        split
        · rfl
        · exact readIpv4_append h.stops body
      simp only [Option.map_some, hquad, readGroup_append h.stops]
      cases (if room = 0 then none else readIpv4 body) with
      | some r => rfl
      | none =>
        simp only [Option.map_none]
        cases readGroup body with
        | none => rfl
        | some r =>
          simp only [Option.map_some, leaving]
          rw [ih]

theorem readIpv6_eq_some_iff {cs r : List Char} {ip : Ipv6} :
    readIpv6 cs = some (ip, r) ↔
      let front := readGroups 8 true cs
      front.values = ip.groups ∧ front.rest = r ∨
        front.values.length ≠ 8 ∧ front.dotted = false ∧
        ∃ behind, front.rest = ':' :: ':' :: behind ∧
          let back := readGroups (7 - front.values.length) true behind
          front.values ++ List.replicate (8 - front.values.length - back.values.length) 0 ++
            back.values = ip.groups ∧
            back.rest = r := by
  obtain ⟨groups, eight⟩ := ip
  rw [readIpv6]
  generalize readGroups 8 true cs = front
  by_cases hfull : front.values.length = 8
  · simp [hfull]
  have hgroups : front.values ≠ groups := fun h => hfull (h ▸ eight)
  rw [dif_neg hfull]
  simp only [hgroups, hfull, false_and, false_or, ne_eq, not_false_eq_true, true_and]
  cases front.dotted with
  | true => simp
  | false =>
    simp only [Bool.false_eq_true, if_false, true_and]
    split
    next behind hbehind =>
      simp only [hbehind, List.cons.injEq, true_and, exists_eq_left']
      generalize readGroups _ true behind = back
      split
      next => simp only [Option.some.injEq, Prod.mk.injEq, Ipv6.mk.injEq]
      next hlength =>
        simp only [reduceCtorEq, false_iff, not_and]
        intro hvalues
        rw [hvalues] at hlength
        exact absurd eight hlength
    next hnone =>
      simp only [reduceCtorEq, false_iff, not_exists, not_and]
      exact fun behind hbehind => absurd hbehind (hnone behind)

theorem readIpv6_append_of_some (h : Closes rest) {cs r : List Char} {ip : Ipv6}
    (hread : readIpv6 cs = some (ip, r)) :
    readIpv6 (cs ++ rest) = some (ip, r ++ rest) := by
  rw [readIpv6_eq_some_iff] at hread ⊢
  simp only [readGroups_append h]
  rcases hread with ⟨hvalues, rfl⟩ | ⟨hroom, hdotted, behind, hbehind, hvalues, rfl⟩
  · exact .inl ⟨hvalues, rfl⟩
  · refine .inr ⟨hroom, hdotted, behind ++ rest, by rw [hbehind]; rfl, ?_⟩
    rw [readGroups_append h]
    exact ⟨hvalues, rfl⟩

theorem colons_of_append (h : Closes rest) {cs behind : List Char}
    (hcs : cs ++ rest = ':' :: ':' :: behind) :
    ∃ r, cs = ':' :: ':' :: r ∧ behind = r ++ rest := by
  match cs with
  | [] =>
    have hrest : rest = ':' :: ':' :: behind := hcs
    exact absurd (by rw [hrest]; rfl) h.noColon
  | [c] =>
    have hrest : rest = ':' :: behind := (List.cons.inj hcs).2
    exact absurd (by rw [hrest]; rfl) h.noColon
  | c :: d :: r =>
    simp only [List.cons_append, List.cons.injEq] at hcs
    obtain ⟨rfl, rfl, rfl⟩ := hcs
    exact ⟨r, rfl, rfl⟩

theorem readIpv6_of_append (h : Closes rest) {cs r : List Char} {ip : Ipv6}
    (hread : readIpv6 (cs ++ rest) = some (ip, r)) :
    ∃ r', r = r' ++ rest ∧ readIpv6 cs = some (ip, r') := by
  simp only [readIpv6_eq_some_iff, readGroups_append h] at hread
  rcases hread with ⟨hvalues, rfl⟩ | ⟨hroom, hdotted, behind, hbehind, hvalues, rfl⟩
  · exact ⟨_, rfl, readIpv6_eq_some_iff.2 (.inl ⟨hvalues, rfl⟩)⟩
  · obtain ⟨behind, hfront, rfl⟩ := colons_of_append h hbehind
    rw [readGroups_append h] at hvalues ⊢
    exact ⟨_, rfl, readIpv6_eq_some_iff.2 (.inr ⟨hroom, hdotted, behind, hfront, hvalues, rfl⟩)⟩

theorem eq_cons_of_readChar {c : Char} {cs r : List Char} (h : readChar c cs = some r) :
    cs = c :: r := by
  cases cs with
  | nil => cases h
  | cons x cs =>
    rw [readChar, Option.ite_none_right_eq_some] at h
    obtain ⟨rfl, h⟩ := h
    rw [Option.some.inj h]

theorem eq_of_readOctet {cs r : List Char} {b : UInt8} (h : readOctet cs = some (b, r)) :
    cs = decimal b.toNat ++ r := by
  rw [readOctet] at h
  split at h
  next n ds r' hread =>
    obtain ⟨⟨hne, hdigits, hlt⟩, rfl, rfl, -⟩ := readNumber_ten_eq_some_iff.1 hread
    rw [Option.ite_none_right_eq_some] at h
    obtain ⟨⟨-, hzero⟩, h⟩ := h
    cases h
    rw [UInt8.toNat_ofNat', Nat.mod_eq_of_lt hlt, decimal, toDigits_ofDigitChars hne hdigits hzero]
  next => cases h

theorem eq_of_readIpv4 {cs r : List Char} {ip : Ipv4} (h : readIpv4 cs = some (ip, r)) :
    cs = ip.chars ++ r := by
  simp only [readIpv4, Option.bind_eq_bind, Option.bind_eq_some_iff, Option.pure_def,
    Option.some.injEq, Prod.exists, Prod.mk.injEq] at h
  obtain ⟨a, cs₁, ha, _, hd₁, b, cs₂, hb, _, hd₂, c, cs₃, hc, _, hd₃, d, cs₄, hd, rfl, rfl⟩ := h
  rw [eq_of_readOctet ha, eq_cons_of_readChar hd₁, eq_of_readOctet hb, eq_cons_of_readChar hd₂,
    eq_of_readOctet hc, eq_cons_of_readChar hd₃, eq_of_readOctet hd]
  simp [Ipv4.chars]

theorem suffix_of_readGroup {cs r : List Char} {g : UInt16} (h : readGroup cs = some (g, r)) :
    r <:+ cs := by
  rw [readGroup, readNumber] at h
  split at h
  next hread =>
    simp only [Option.ite_none_right_eq_some, Option.some.injEq, Prod.mk.injEq] at h hread
    obtain ⟨-, -, rfl⟩ := h
    obtain ⟨-, -, -, rfl⟩ := hread
    exact List.dropWhile_suffix _
  next => cases h

theorem readGroups_left (room : Nat) (first : Bool) (cs : List Char) :
    let g := readGroups room first cs
    g.rest <:+ cs ∧
      g.values.length + g.rest.count ':' ≤ cs.count ':' + first.toNat + g.dotted.toNat := by
  induction room generalizing first cs with
  | zero => simp [readGroups]
  | succ room ih =>
    rw [readGroups]
    split
    next => simp
    next body hbody =>
      have hsuffix : body <:+ cs ∧ body.count ':' + 1 ≤ cs.count ':' + first.toNat := by
        cases first with
        | true =>
          obtain rfl := Option.some.inj hbody
          exact ⟨List.suffix_rfl, le_rfl⟩
        | false =>
          obtain rfl := eq_cons_of_readChar hbody
          exact ⟨List.suffix_cons _ _, by simp⟩
      split
      next quad r hquad =>
        have hr : r <:+ body := by
          rw [eq_of_readIpv4 ((ite_eq_iff.1 hquad).resolve_left (by simp)).2]
          exact List.suffix_append ..
        have hcount := hr.sublist.count_le ':'
        refine ⟨hr.trans hsuffix.1, ?_⟩
        simp only [Ipv4.groups, List.length_cons, List.length_nil, Bool.toNat_true]
        omega
      next =>
        split
        next g r hgroup =>
          have hr := suffix_of_readGroup hgroup
          obtain ⟨hrest, hmore⟩ := ih false r
          have hcount := hr.sublist.count_le ':'
          refine ⟨(hrest.trans hr).trans hsuffix.1, ?_⟩
          simp only [List.length_cons, Bool.toNat_false] at hmore ⊢
          omega
        next => simp

theorem left_of_readIpv6 {cs r : List Char} {ip : Ipv6} (h : readIpv6 cs = some (ip, r)) :
    r <:+ cs ∧ 2 ≤ cs.count ':' := by
  obtain ⟨hsuffix, hcount⟩ := readGroups_left 8 true cs
  rcases readIpv6_eq_some_iff.1 h with ⟨hvalues, rfl⟩ | ⟨-, -, behind, hbehind, -, rfl⟩
  · refine ⟨hsuffix, ?_⟩
    have hdotted := Bool.toNat_le (readGroups 8 true cs).dotted
    rw [hvalues, ip.eight, Bool.toNat_true] at hcount
    omega
  · rw [hbehind] at hsuffix
    refine ⟨(readGroups_left _ true behind).1.trans
      (((List.suffix_cons ..).trans (List.suffix_cons ..)).trans hsuffix), ?_⟩
    have hcolons := hsuffix.sublist.count_le ':'
    simp only [List.count_cons_self] at hcolons
    omega

end AccessTrail.Net
