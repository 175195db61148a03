import AccessTrail.Proofs.Net.Reading

namespace AccessTrail.Net

def IsZone (zone : List Char) : Prop := zone = [] ∨ ∃ ds, zone = '%' :: ds ∧ IsNumeral 4294967296 ds

def Bracketed (ip : Ipv6) (cs : List Char) : Prop :=
  ∃ literal zone port, cs = '[' :: (literal ++ (zone ++ ']' :: ':' :: port)) ∧
    readIpv6 literal = some (ip, []) ∧ IsZone zone ∧ IsNumeral 65536 port

def Ported (h cs : List Char) : Prop :=
  ':' ∉ h ∧ ∃ ds, cs = h ++ ':' :: ds ∧ ∀ c ∈ ds, c.isDigit = true

theorem readPort_eq_some_iff {cs : List Char} {port : UInt16} :
    readPort cs = some (port, []) ↔
      ∃ ds, cs = ':' :: ds ∧ IsNumeral 65536 ds ∧
      UInt16.ofNat (Nat.ofDigitChars 10 ds 0) = port := by
  simp only [readPort, Option.bind_eq_bind, Option.bind_eq_some_iff, Option.pure_def,
    Option.some.injEq, Prod.exists, Prod.mk.injEq]
  constructor
  · rintro ⟨cs', hcolon, n, ds, r, hread, rfl, rfl⟩
    obtain ⟨hnumeral, rfl, rfl, -⟩ := readNumber_ten_eq_some_iff.1 hread
    exact ⟨ds, by rw [eq_cons_of_readChar hcolon, List.append_nil], hnumeral, rfl⟩
  · rintro ⟨ds, rfl, hnumeral, rfl⟩
    have hread := hnumeral.readNumber (r := []) nofun
    rw [List.append_nil] at hread
    exact ⟨ds, readChar_self ':' ds, _, ds, [], hread, rfl, rfl⟩

theorem IsZone.closes {zone : List Char} (h : IsZone zone) (rest : List Char) :
    Closes (zone ++ ']' :: rest) := by
  rcases h with rfl | ⟨ds, rfl, -⟩ <;> exact ⟨.cons (by decide) _, by simp⟩

theorem zone_of_readScope {cs rest : List Char} {scope : UInt32}
    (h : readScope cs = (scope, ']' :: rest)) :
    ∃ zone, IsZone zone ∧ cs = zone ++ ']' :: rest := by
  rw [readScope] at h
  split at h
  next body hpercent =>
    have hcs := eq_cons_of_readChar hpercent
    split at h
    next n ds r hread =>
      obtain ⟨hnumeral, -, rfl, -⟩ := readNumber_ten_eq_some_iff.1 hread
      cases h
      exact ⟨'%' :: ds, .inr ⟨ds, rfl, hnumeral⟩, hcs⟩
    next =>
      -- the percent sign is still there
      cases h
      cases hcs
  next =>
    cases h
    exact ⟨[], .inl rfl, rfl⟩

theorem IsZone.readScope {zone : List Char} (h : IsZone zone) (rest : List Char) :
    ∃ scope, readScope (zone ++ ']' :: rest) = (scope, ']' :: rest) := by
  rcases h with rfl | ⟨ds, rfl, hnumeral⟩
  · exact ⟨0, rfl⟩
  · have hread := hnumeral.readNumber (r := ']' :: rest) (by simp [Char.isDigit])
    refine ⟨UInt32.ofNat (Nat.ofDigitChars 10 ds 0), ?_⟩
    rw [Net.readScope, List.cons_append, readChar_self]
    simp only [hread]

theorem ported_of_readSocketV4 {cs : List Char} {a : SocketAddress}
    (h : readSocketV4 cs = some (a, [])) :
    Ported a.ip.chars cs := by
  simp only [readSocketV4, Option.bind_eq_bind, Option.bind_eq_some_iff, Option.pure_def,
    Option.some.injEq, Prod.exists, Prod.mk.injEq] at h
  obtain ⟨ip, r, hip, port, r', hport, rfl, rfl⟩ := h
  obtain ⟨ds, rfl, ⟨-, hdigits, -⟩, -⟩ := readPort_eq_some_iff.1 hport
  refine ⟨?_, ds, eq_of_readIpv4 hip, hdigits⟩
  have hcolon (n : Nat) : ':' ∉ decimal n := fun hmem =>
    absurd (Nat.isDigit_of_mem_toDigits (by decide) (by decide) hmem) (by decide)
  simp [SocketAddress.ip, Ip.chars, Ipv4.chars, hcolon]

theorem bracketed_of_readSocketV6 {cs : List Char} {a : SocketAddress}
    (h : readSocketV6 cs = some (a, [])) :
    ∃ ip scope port, a = .v6 ip scope port ∧ Bracketed ip cs := by
  simp only [readSocketV6, Option.bind_eq_bind, Option.bind_eq_some_iff, Option.pure_def,
    Option.some.injEq, Prod.exists, Prod.mk.injEq] at h
  obtain ⟨body, hopen, ip, r, hip, r', hclose, port, r'', hport, rfl, rfl⟩ := h
  obtain ⟨ds, rfl, hnumeral, -⟩ := readPort_eq_some_iff.1 hport
  obtain ⟨zone, hzone, rfl⟩ := zone_of_readScope (Prod.ext rfl (eq_cons_of_readChar hclose))
  obtain ⟨literal, rfl⟩ := (left_of_readIpv6 hip).1
  obtain ⟨r, hr, hliteral⟩ := readIpv6_of_append (hzone.closes _) hip
  obtain rfl : [] = r := List.append_cancel_right hr
  exact ⟨ip, _, port, rfl, literal, zone, ds, eq_cons_of_readChar hopen, hliteral, hzone, hnumeral⟩

theorem ofChars?_eq_some_iff {cs : List Char} {a : SocketAddress} :
    SocketAddress.ofChars? cs = some a ↔
      readSocketV4 cs = some (a, []) ∨ readSocketV4 cs = none ∧ readSocketV6 cs = some (a, []) := by
  rw [SocketAddress.ofChars?]
  cases readSocketV4 cs with
  | some r => obtain ⟨a', _ | _⟩ := r <;> simp
  | none =>
    cases readSocketV6 cs with
    | some r => obtain ⟨a', _ | _⟩ := r <;> simp
    | none => simp

theorem ofChars?_v6_iff {cs : List Char} {ip : Ipv6} :
    (∃ scope port, SocketAddress.ofChars? cs = some (.v6 ip scope port)) ↔ Bracketed ip cs := by
  constructor
  · rintro ⟨scope, port, h⟩
    rcases ofChars?_eq_some_iff.1 h with h | ⟨-, h⟩
    · simp [readSocketV4, Option.bind_eq_some_iff] at h
    · obtain ⟨_, _, _, ha, hbracketed⟩ := bracketed_of_readSocketV6 h
      cases ha
      exact hbracketed
  · rintro ⟨literal, zone, ds, rfl, hliteral, hzone, hnumeral⟩
    have hread := readIpv6_append_of_some (hzone.closes (':' :: ds)) hliteral
    obtain ⟨scope, hscope⟩ := hzone.readScope (':' :: ds)
    have hport := readPort_eq_some_iff.2 ⟨ds, rfl, hnumeral, rfl⟩
    have hquad : readIpv4 ('[' :: (literal ++ (zone ++ ']' :: ':' :: ds))) = none :=
      readIpv4_eq_none (Stops.cons (by decide) _).dot_not_mem
    refine ⟨scope, UInt16.ofNat (Nat.ofDigitChars 10 ds 0), ofChars?_eq_some_iff.2 (.inr ⟨?_, ?_⟩)⟩
    · rw [readSocketV4, hquad]
      rfl
    simp only [readSocketV6, readChar_self, hread, List.nil_append, hscope, hport,
      Option.bind_eq_bind, Option.bind_some, Option.pure_def]

namespace Ported

variable {h cs : List Char}

theorem count_colon (hp : Ported h cs) : cs.count ':' = 1 := by
  obtain ⟨hh, ds, rfl, hds⟩ := hp
  have hcolon : ':' ∉ ds := fun hmem => absurd (hds _ hmem) (by decide)
  rw [List.count_append, List.count_cons_self, List.count_eq_zero_of_not_mem hh,
    List.count_eq_zero_of_not_mem hcolon]

theorem takeWhile_eq (hp : Ported h cs) : cs.takeWhile (· != ':') = h := by
  obtain ⟨hh, ds, rfl, -⟩ := hp
  have hall : ∀ c ∈ h, (c != ':') = true := by
    intro c hc
    rw [bne_iff_ne]
    exact fun heq => hh (heq ▸ hc)
  rw [takeWhile_append_of_head (by simp), List.takeWhile_eq_self_iff.2 hall]

end Ported

theorem Bracketed.colons {ip : Ipv6} {cs : List Char} (h : Bracketed ip cs) : 2 ≤ cs.count ':' := by
  obtain ⟨literal, zone, ds, rfl, hliteral, -⟩ := h
  have hcolons := (left_of_readIpv6 hliteral).2
  rw [List.count_cons_of_ne (by decide), List.count_append]
  omega

theorem splitLastColon_eq_some {h ds : List Char} (hds : ':' ∉ ds) :
    splitLastColon (h ++ ':' :: ds) = some (h, ds) := by
  have hnone : splitLastColon ds = none := by
    induction ds with
    | nil => rfl
    | cons c ds ih =>
      simp only [List.mem_cons, not_or] at hds
      rw [splitLastColon, ih hds.2]
      exact if_neg (Ne.symm hds.1)
  induction h with
  | nil =>
    rw [List.nil_append, splitLastColon, hnone]
    rfl
  | cons c h ih => rw [List.cons_append, splitLastColon, ih]

theorem hostChars_of_ported {h cs : List Char} (hp : Ported h cs) : hostChars cs = h := by
  rw [hostChars]
  split
  next a ha =>
    rcases ofChars?_eq_some_iff.1 ha with ha | ⟨-, ha⟩
    · exact (ported_of_readSocketV4 ha).takeWhile_eq.symm.trans hp.takeWhile_eq
    · obtain ⟨ip, _, _, -, hbracketed⟩ := bracketed_of_readSocketV6 ha
      have := hbracketed.colons
      have := hp.count_colon
      omega
  next =>
    obtain ⟨hh, ds, rfl, hds⟩ := hp
    have hcolon : ':' ∉ ds := fun hmem => absurd (hds _ hmem) (by decide)
    have hdigits : ∀ c ∈ ds, '0' ≤ c ∧ c ≤ '9' := fun c hc => isDigit_iff.1 (hds c hc)
    rw [splitLastColon_eq_some hcolon]
    simpa [hh] using hdigits

theorem hostChars_of_bracketed {ip : Ipv6} {cs : List Char} (h : Bracketed ip cs) :
    hostChars cs = ip.chars := by
  obtain ⟨scope, port, ha⟩ := ofChars?_v6_iff.2 h
  rw [hostChars, ha]
  rfl

theorem hostChars_of_other {cs : List Char} (hported : ∀ h, ¬ Ported h cs)
    (hbracketed : ∀ ip, ¬ Bracketed ip cs) :
    hostChars cs = cs := by
  rw [hostChars]
  split
  next a ha =>
    rcases ofChars?_eq_some_iff.1 ha with ha | ⟨-, ha⟩
    · exact absurd (ported_of_readSocketV4 ha) (hported _)
    · obtain ⟨ip, _, _, -, h⟩ := bracketed_of_readSocketV6 ha
      exact absurd h (hbracketed ip)
  next =>
    split
    next h ds hsplit =>
      split
      next hdigits =>
        rw [Bool.and_eq_true, Bool.not_eq_true', List.all_eq_true] at hdigits
        obtain ⟨hh, hds⟩ := hdigits
        have hp : Ported h cs := by
          refine ⟨by simpa using hh, ds, splitLastColon_eq hsplit, fun c hc => ?_⟩
          exact isDigit_iff.2 (by simpa using hds c hc)
        exact absurd hp (hported h)
      next => rfl
    next => rfl

theorem hostChars_of_ipv6 {cs : List Char} {ip : Ipv6} (h : readIpv6 cs = some (ip, [])) :
    hostChars cs = cs := by
  have hcolons := (left_of_readIpv6 h).2
  refine hostChars_of_other (fun h' hported => ?_) (fun ip' hbracketed => ?_)
  · have hcount := hported.count_colon
    omega
  · obtain ⟨literal, zone, ds, rfl, -⟩ := hbracketed
    have hfront := readGroups_of_stops (.cons (by decide : Hex.value? '[' = none ∧ '[' ≠ '.')
      (literal ++ (zone ++ ']' :: ':' :: ds))) true rfl 8
    rw [readIpv6_eq_some_iff, hfront] at h
    rcases h with ⟨hvalues, -⟩ | ⟨-, -, behind, hbehind, -⟩
    · exact absurd (congrArg List.length hvalues) (by simp [ip.eight])
    · cases hbehind

theorem getLast?_of_digits {cs ds : List Char} (h : ∀ c ∈ ds, c.isDigit = true) :
    (cs ++ ':' :: ds).getLast? ≠ some ']' := by
  rw [List.getLast?_append_of_ne_nil _ (List.cons_ne_nil _ _)]
  intro hlast
  rcases List.mem_cons.1 (List.mem_of_getLast? hlast) with hc | hc
  · cases hc
  · exact absurd (h _ hc) (by decide)

theorem hostChars_of_closed {cs : List Char} (h : cs.getLast? = some ']') : hostChars cs = cs := by
  refine hostChars_of_other (fun h' hported => ?_) (fun ip hbracketed => ?_)
  · obtain ⟨-, ds, rfl, hds⟩ := hported
    exact getLast?_of_digits hds h
  · obtain ⟨literal, zone, ds, rfl, -, -, -, hds, -⟩ := hbracketed
    have hcs : '[' :: (literal ++ (zone ++ ']' :: ':' :: ds)) =
        ('[' :: (literal ++ (zone ++ [']']))) ++ ':' :: ds := by
      simp
    rw [hcs] at h
    exact getLast?_of_digits hds h

theorem hostChars_idem (cs : List Char) : hostChars (hostChars cs) = hostChars cs := by
  by_cases hported : ∃ h, Ported h cs
  · obtain ⟨h, hh⟩ := hported
    rw [hostChars_of_ported hh]
    refine hostChars_of_other (fun h' hh' => ?_) (fun ip hbracketed => ?_)
    · have hcount := hh'.count_colon
      rw [List.count_eq_zero_of_not_mem hh.1] at hcount
      cases hcount
    · have hcolons := hbracketed.colons
      rw [List.count_eq_zero_of_not_mem hh.1] at hcolons
      omega
  · by_cases hbracketed : ∃ ip, Bracketed ip cs
    · obtain ⟨ip, hip⟩ := hbracketed
      have hread := readIpv6_chars ip .nil
      rw [List.append_nil] at hread
      rw [hostChars_of_bracketed hip, hostChars_of_ipv6 hread]
    · rw [not_exists] at hported hbracketed
      rw [hostChars_of_other hported hbracketed, hostChars_of_other hported hbracketed]

/-- A port of any digits after the only colon is dropped, and so are the brackets, the scope and the
port of an address of version 6, which is written anew. Any other text is its own host, as are
addresses of version 6 alone and brackets without a port. The texts that are read as addresses are
among those of the first two forms, so both ways to find a host agree; and a host is its own. -/
theorem host_of_text (x : String) :
    (∀ h, Ported h x.toList → host x = String.ofList h) ∧
      (∀ ip, Bracketed ip x.toList → host x = (Ip.v6 ip).text) ∧
      ((∀ h, ¬ Ported h x.toList) → (∀ ip, ¬ Bracketed ip x.toList) → host x = x) ∧
      (∀ ip, readIpv6 x.toList = some (ip, []) → host x = x) ∧
      (∀ body, x = "[" ++ body ++ "]" → host x = x) ∧
      (∀ ip port, SocketAddress.parse? x = some (.v4 ip port) → Ported ip.chars x.toList) ∧
      (∀ ip, (∃ scope port, SocketAddress.parse? x = some (.v6 ip scope port)) ↔
        Bracketed ip x.toList) ∧
      host (host x) = host x := by
  have hself (h : hostChars x.toList = x.toList) : host x = x := by
    rw [host, h, String.ofList_toList]
  refine ⟨fun h hported => ?_, fun ip hbracketed => ?_, fun hported hbracketed => ?_,
    fun ip hip => ?_, fun body hbody => ?_, fun ip port hparse => ?_, fun ip => ofChars?_v6_iff, ?_⟩
  · rw [host, hostChars_of_ported hported]
  · rw [host, hostChars_of_bracketed hbracketed]
    rfl
  · exact hself (hostChars_of_other hported hbracketed)
  · exact hself (hostChars_of_ipv6 hip)
  · have htext : x.toList = ('[' :: body.toList) ++ [']'] := by simp [hbody]
    exact hself (hostChars_of_closed (by rw [htext, List.getLast?_concat]))
  · rcases ofChars?_eq_some_iff.1 hparse with h | ⟨-, h⟩
    · exact ported_of_readSocketV4 h
    · obtain ⟨_, _, _, ha, -⟩ := bracketed_of_readSocketV6 h
      cases ha
  · rw [host, host, String.toList_ofList, hostChars_idem]

theorem host_of_text_of_scoped :
    let ip : Ipv6 := ⟨[0xFE80, 0, 0, 0, 0, 0, 0, 1], rfl⟩
    Bracketed ip "[FE80:0::1%3]:0443".toList ∧ host "[FE80:0::1%3]:0443" = "fe80::1" ∧
      Ported "256.1.2.3".toList "256.1.2.3:99999".toList ∧ host "256.1.2.3:99999" = "256.1.2.3" ∧
      host "FE80:0::1" = "FE80:0::1" ∧ host "[::1]" = "[::1]" := by
  intro ip
  have hbracketed : Bracketed ip "[FE80:0::1%3]:0443".toList := by
    refine ofChars?_v6_iff.1 ⟨3, 443, ?_⟩
    decide +kernel
  have hported : Ported "256.1.2.3".toList "256.1.2.3:99999".toList :=
    ⟨by decide, "99999".toList, rfl, List.all_eq_true.1 (by decide)⟩
  have hv6 : readIpv6 "FE80:0::1".toList = some (ip, []) := by decide +kernel
  refine ⟨hbracketed, ?_, hported, ?_, ?_, ?_⟩
  · rw [(host_of_text "[FE80:0::1%3]:0443").2.1 ip hbracketed]
    decide +kernel
  · exact (host_of_text "256.1.2.3:99999").1 _ hported
  · exact (host_of_text "FE80:0::1").2.2.2.1 ip hv6
  · exact (host_of_text "[::1]").2.2.2.2.1 "::1" (by decide)

end AccessTrail.Net
