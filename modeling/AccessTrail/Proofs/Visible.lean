import AccessTrail.Http.Request
import AccessTrail.Net.Host
import Mathlib.Tactic

namespace AccessTrail.Text

def isVisible (c : Char) : Bool := 0x20 < c.toNat && c.toNat != 0x7F

theorem isVisible_iff {c : Char} : isVisible c = true ↔ 0x20 < c.toNat ∧ c.toNat ≠ 0x7F := by
  simp [isVisible]

theorem space_not_mem {cs : List Char} (h : cs.all isVisible = true) : ' ' ∉ cs := by
  intro hm
  exact absurd (List.all_eq_true.1 h ' ' hm) (by decide)

theorem all_visible_of_all {p : Char → Bool} (hp : ∀ c, p c = true → isVisible c = true)
    {cs : List Char} (h : cs.all p = true) : cs.all isVisible = true :=
  List.all_eq_true.2 fun c hc => hp c (List.all_eq_true.1 h c hc)

theorem mem_toDigits {b n : Nat} {c : Char} (hb : 1 < b) (h : c ∈ Nat.toDigits b n) :
    ∃ d < b, c = Nat.digitChar d := by
  induction n using Nat.strongRecOn with
  | ind n ih =>
    rw [Nat.toDigits_eq_if hb] at h
    split at h
    next hn => exact ⟨n, hn, List.mem_singleton.1 h⟩
    next hn =>
      rcases List.mem_append.1 h with h | h
      · exact ih _ (Nat.div_lt_self (by omega) hb) h
      · exact ⟨n % b, Nat.mod_lt _ (by omega), List.mem_singleton.1 h⟩

theorem all_visible_toDigits {b : Nat} (hb : 1 < b) (hb' : b ≤ 16) (n : Nat) :
    (Nat.toDigits b n).all isVisible = true := by
  apply List.all_eq_true.2
  intro c hc
  obtain ⟨d, hd, rfl⟩ := mem_toDigits hb hc
  exact (by decide : ∀ d < 16, isVisible (Nat.digitChar d) = true) d (by omega)

end AccessTrail.Text

namespace AccessTrail.Net

open Text (isVisible)

theorem all_visible_decimal (n : Nat) : (decimal n).all isVisible = true :=
  Text.all_visible_toDigits (by decide) (by decide) n

theorem all_visible_hex (n : Nat) : (Hex.digits n).all isVisible = true :=
  Text.all_visible_toDigits (by decide) (by decide) n

theorem all_visible_ipv4 (ip : Ipv4) : ip.chars.all isVisible = true := by
  have hd : isVisible '.' = true := by decide
  simp only [Ipv4.chars, List.all_append, List.all_cons, all_visible_decimal, hd, Bool.and_true]

theorem all_visible_joinGroups (gs : List UInt16) : (joinGroups gs).all isVisible = true := by
  have hc : isVisible ':' = true := by decide
  induction gs using joinGroups.induct with
  | case1 => rfl
  | case2 g => exact all_visible_hex _
  | case3 g gs hgs ih =>
    rw [joinGroups]
    · simp only [List.all_append, List.all_cons, all_visible_hex, ih, hc, Bool.and_true]
    · exact hgs

theorem all_visible_ipv6 (ip : Ipv6) : ip.chars.all isVisible = true := by
  have hc : isVisible ':' = true := by decide
  unfold Ipv6.chars
  split
  next tail _ =>
    have hm : "::ffff:".toList.all isVisible = true := by decide
    rw [List.all_append, hm, all_visible_ipv4, Bool.and_true]
  next =>
    simp only
    split
    · simp only [List.all_append, List.all_cons, all_visible_joinGroups, hc, Bool.and_true]
    · exact all_visible_joinGroups _

theorem all_visible_ip (ip : Ip) : ip.chars.all isVisible = true := by
  cases ip with
  | v4 ip => exact all_visible_ipv4 ip
  | v6 ip => exact all_visible_ipv6 ip

theorem all_visible_address (a : SocketAddress) : a.chars.all isVisible = true := by
  have hc : isVisible ':' = true := by decide
  cases a with
  | v4 ip port =>
    simp only [SocketAddress.chars, List.all_append, List.all_cons, all_visible_ipv4,
      all_visible_decimal, hc, Bool.and_true]
  | v6 ip scope port =>
    have hs : (if scope = 0 then [] else '%' :: decimal scope.toNat).all isVisible = true := by
      split
      · rfl
      · rw [List.all_cons, all_visible_decimal]
        rfl
    have ho : isVisible '[' = true := by decide
    have he : isVisible ']' = true := by decide
    simp only [SocketAddress.chars, List.all_append, List.all_cons, all_visible_ipv6,
      all_visible_decimal, hs, hc, ho, he, Bool.and_true]

theorem splitLastColon_eq {cs host port : List Char} (h : splitLastColon cs = some (host, port)) :
    cs = host ++ ':' :: port := by
  induction cs generalizing host port with
  | nil => cases h
  | cons c cs ih =>
    rw [splitLastColon] at h
    split at h
    next before after hs =>
      cases h
      rw [ih hs, List.cons_append]
    next =>
      split at h <;> cases h
      next hc => rw [hc, List.nil_append]

theorem all_visible_hostChars {peer : List Char} (h : peer.all isVisible = true) :
    (hostChars peer).all isVisible = true := by
  unfold hostChars
  split
  next a _ => exact all_visible_ip a.ip
  next =>
    split
    next host port hs =>
      split
      · rw [splitLastColon_eq hs, List.all_append, Bool.and_eq_true] at h
        exact h.1
      · exact h
    next => exact h

end AccessTrail.Net

namespace AccessTrail.Http

open Text (isVisible)

theorem isAsciiAlnum_visible {c : Char} (h : isAsciiAlnum c = true) : isVisible c = true := by
  simp only [isAsciiAlnum, Bool.or_eq_true, Bool.and_eq_true, decide_eq_true_eq, Char.le_def,
    UInt32.le_iff_toNat_le, Char.toNat_val, Char.reduceToNat] at h
  rw [Text.isVisible_iff]
  omega

theorem alnum_or_mark_visible {marks : List Char} (hm : marks.all isVisible = true) {c : Char}
    (h : (isAsciiAlnum c || marks.contains c) = true) : isVisible c = true := by
  rw [Bool.or_eq_true, List.contains_iff_mem] at h
  rcases h with h | h
  · exact isAsciiAlnum_visible h
  · exact List.all_eq_true.1 hm c h

theorem isTokenChar_visible {c : Char} (h : isTokenChar c = true) : isVisible c = true := by
  rw [isTokenChar, Bool.or_eq_true, beq_iff_eq] at h
  rcases h with h | h
  · exact alnum_or_mark_visible (by decide) h
  · simp [Text.isVisible_iff, h]

theorem isPathChar_visible {c : Char} (h : isPathChar c = true) : isVisible c = true := by
  simp only [isPathChar, isControl, Bool.not_eq_true', Bool.or_eq_false_iff,
    decide_eq_false_iff_not, beq_eq_false_iff_ne] at h
  have hs : c.toNat ≠ 0x20 := fun hc => h.1.1.1.2 (Char.toNat_inj.1 hc)
  rw [Text.isVisible_iff]
  omega

theorem isQueryChar_visible {c : Char} (h : isQueryChar c = true) : isVisible c = true := by
  simp only [isQueryChar, isControl, Bool.not_eq_true', Bool.or_eq_false_iff,
    decide_eq_false_iff_not, beq_eq_false_iff_ne] at h
  have hs : c.toNat ≠ 0x20 := fun hc => h.1.1.1.2 (Char.toNat_inj.1 hc)
  rw [Text.isVisible_iff]
  omega

theorem Method.all_visible (m : Method) : m.chars.all isVisible = true := by
  have h := m.isToken
  rw [Http.isToken, Bool.and_eq_true] at h
  exact Text.all_visible_of_all (fun _ => isTokenChar_visible) h.1

theorem Target.all_visible (t : Target) :
    (t.path ++ Uri.queryChars t.query).all isVisible = true := by
  have hq : (Uri.queryChars t.query).all isVisible = true := by
    have ok := t.queryOk
    cases hq : t.query with
    | none => rfl
    | some q =>
      rw [hq] at ok
      rw [Uri.queryChars, List.all_cons, Bool.and_eq_true]
      exact ⟨by decide, Text.all_visible_of_all (fun _ => isQueryChar_visible) ok⟩
  rw [List.all_append, hq, Bool.and_true]
  exact Text.all_visible_of_all (fun _ => isPathChar_visible) t.pathOk

theorem Authority.all_visible (a : Authority) : a.chars.all isVisible = true :=
  Text.all_visible_of_all (fun _ => alnum_or_mark_visible (by decide)) a.ok

theorem Scheme.all_visible (s : Scheme) : s.chars.all isVisible = true :=
  Text.all_visible_of_all (fun _ => alnum_or_mark_visible (by decide)) s.ok

theorem Uri.all_visible (u : Uri) : u.chars.all isVisible = true := by
  cases u with
  | asterisk => decide
  | origin t => exact t.all_visible
  | authority a => exact a.all_visible
  | absolute s a t =>
    have hc : isVisible ':' = true := by decide
    have hs : isVisible '/' = true := by decide
    rw [Uri.chars, List.all_append, List.all_cons, List.all_cons, List.all_cons, List.all_append,
      s.all_visible, a.all_visible, t.all_visible, hc, hs]
    rfl

theorem Request.all_visible_host (q : Request) :
    (Net.hostChars q.visit.peer.toList).all isVisible = true := by
  apply Net.all_visible_hostChars
  unfold Request.visit
  cases q.peer with
  | none => rfl
  | some a =>
    simp only [Option.map_some, Option.getD_some, Net.SocketAddress.text, String.toList_ofList]
    exact Net.all_visible_address a

end AccessTrail.Http
