import AccessTrail.Proofs.Net.Numeral
import AccessTrail.Record

namespace AccessTrail.Net

theorem readChar_self (c : Char) (rest : List Char) :
    readChar c (c :: rest) = some rest := if_pos rfl

theorem readChar_eq_none {c : Char} {rest : List Char} (h : c ∉ rest.head?) :
    readChar c rest = none := by
  cases rest with
  | nil => rfl
  | cons x rest => exact if_neg fun hx => h (congrArg some hx)

theorem readIpv4_chars (ip : Ipv4) {rest : List Char}
    (h : ∀ c ∈ rest.head?, digitBelow 10 c = none) :
    readIpv4 (ip.chars ++ rest) = some (ip, rest) := by
  have hdot : ∀ cs : List Char, ∀ c ∈ ('.' :: cs).head?, digitBelow 10 c = none := by
    intro cs c hc
    cases hc
    rfl
  simp only [readIpv4, Ipv4.chars, List.append_assoc, List.cons_append,
    readOctet_decimal _ (hdot _), readOctet_decimal _ h, readChar_self, Option.bind_eq_bind,
    Option.bind_some, Option.pure_def]

theorem rest_of_readOctet {cs rest : List Char} {b : UInt8} (h : readOctet cs = some (b, rest)) :
    rest = cs.dropWhile fun c => (digitBelow 10 c).isSome := by
  rw [readOctet, readNumber] at h
  split at h
  next hread =>
    split at h
    · cases h
      split at hread
      · cases hread
        rfl
      · cases hread
    · cases h
  next => cases h

theorem readIpv4_eq_none {cs : List Char}
    (h : '.' ∉ (cs.dropWhile fun c => (digitBelow 10 c).isSome).head?) : readIpv4 cs = none := by
  rw [readIpv4]
  cases hoctet : readOctet cs with
  | none => rfl
  | some r =>
    have hrest : r.2 = _ := rest_of_readOctet hoctet
    have hdot : readChar '.' r.2 = none := readChar_eq_none (by rwa [hrest])
    simp only [Option.bind_eq_bind, Option.bind_some, hdot, Option.bind_none]

theorem Stops.dot_not_mem {rest : List Char} (h : Stops rest) :
    '.' ∉ (rest.dropWhile fun c => (digitBelow 10 c).isSome).head? := by
  intro hdot
  cases rest with
  | nil => cases hdot
  | cons c rest =>
    have hc : (digitBelow 10 c).isSome = false := by rw [h.not_digit 10 (c := c) rfl]; rfl
    rw [List.dropWhile_cons, hc] at hdot
    cases hdot
    exact (h '.' rfl).2 rfl

theorem readIpv4_hex (g : UInt16) {rest : List Char} (h : Stops rest) :
    readIpv4 (Hex.digits g.toNat ++ rest) = none := by
  refine readIpv4_eq_none ?_
  rw [List.dropWhile_append]
  split
  next => exact h.dot_not_mem
  next hletters =>
    intro hdot
    rw [List.isEmpty_iff] at hletters
    rw [List.head?_append_of_ne_nil _ hletters] at hdot
    have hmem := (List.dropWhile_suffix _).subset (List.mem_of_mem_head? hdot)
    obtain ⟨d, hd, hchar⟩ := Text.mem_toDigits (by decide) hmem
    exact (by decide : ∀ d < 16, '.' ≠ Nat.digitChar d) d hd hchar

structure Over (rest : List Char) : Prop where
  stops : Stops rest
  ends : ∀ room, readGroups room false rest = ⟨[], false, rest⟩

theorem readGroups_of_stops {body : List Char} (h : Stops body) (first : Bool) {cs : List Char}
    (hbody : (if first then some cs else readChar ':' cs) = some body) (room : Nat) :
    readGroups room first cs = ⟨[], false, cs⟩ := by
  have hquad : readIpv4 body = none := readIpv4_eq_none h.dot_not_mem
  have hgroup : readGroup body = none := by rw [readGroup, readNumber_eq_none 16 65536 h]
  cases room with
  | zero => rfl
  | succ room =>
    rw [readGroups, hbody]
    simp only [hquad, hgroup, ite_self]

namespace Over

theorem of_head {c : Char} (hc : Hex.value? c = none ∧ c ≠ '.') (hcolon : c ≠ ':')
    (rest : List Char) :
    Over (c :: rest) where
  stops := .cons hc rest
  ends room := by
    have hbody : readChar ':' (c :: rest) = none := if_neg hcolon
    cases room with
    | zero => rfl
    | succ room =>
      rw [readGroups]
      simp only [Bool.false_eq_true, if_false, hbody]

theorem of_colons (rest : List Char) : Over (':' :: ':' :: rest) where
  stops := .cons (by decide) _
  ends := readGroups_of_stops (.cons (by decide) rest) false (readChar_self ':' (':' :: rest))

end Over

theorem readGroups_hex (g : UInt16) {rest : List Char} (h : Stops rest) (first : Bool)
    {cs : List Char}
    (hbody : (if first then some cs else readChar ':' cs) = some (Hex.digits g.toNat ++ rest))
    (room : Nat) :
    readGroups (room + 1) first cs =
      let more := readGroups room false rest
      ⟨g :: more.values, more.dotted, more.rest⟩ := by
  rw [readGroups, hbody]
  simp only [readIpv4_hex g h, readGroup_hex g h, ite_self]

def joinedTail (gs : List UInt16) : List Char := gs.flatMap fun g => ':' :: Hex.digits g.toNat

theorem joinGroups_cons (g : UInt16) (gs : List UInt16) :
    joinGroups (g :: gs) = Hex.digits g.toNat ++ joinedTail gs := by
  induction gs generalizing g with
  | nil => simp [joinGroups, joinedTail]
  | cons g' gs ih =>
    rw [joinGroups, ih]
    · rfl
    · simp

theorem stops_joinedTail (gs : List UInt16) {rest : List Char} (h : Stops rest) :
    Stops (joinedTail gs ++ rest) := by
  cases gs with
  | nil => exact h
  | cons g gs => exact .cons (by decide) _

theorem readGroups_joinedTail {gs : List UInt16} {rest : List Char} (h : Over rest) {room : Nat}
    (hroom : gs.length ≤ room) :
    readGroups room false (joinedTail gs ++ rest) = ⟨gs, false, rest⟩ := by
  induction gs generalizing room with
  | nil => exact h.ends room
  | cons g gs ih =>
    obtain ⟨room, rfl⟩ := Nat.exists_eq_add_of_le' (Nat.lt_of_lt_of_le (Nat.zero_lt_succ _) hroom)
    refine (readGroups_hex g (stops_joinedTail gs h.stops) false ?_ room).trans ?_
    · change readChar ':' (joinedTail (g :: gs) ++ rest) = _
      rw [joinedTail, List.flatMap_cons, List.cons_append, List.cons_append, List.append_assoc]
      exact readChar_self ':' _
    · rw [ih (Nat.le_of_succ_le_succ hroom)]

theorem readGroups_joinGroups {gs : List UInt16} {rest : List Char} (h : Over rest) {room : Nat}
    (hroom : gs.length ≤ room) :
    readGroups room true (joinGroups gs ++ rest) = ⟨gs, false, rest⟩ := by
  cases gs with
  | nil => exact readGroups_of_stops h.stops true rfl room
  | cons g gs =>
    obtain ⟨room, rfl⟩ := Nat.exists_eq_add_of_le' (Nat.lt_of_lt_of_le (Nat.zero_lt_succ _) hroom)
    rw [joinGroups_cons, List.append_assoc,
      readGroups_hex g (stops_joinedTail gs h.stops) true rfl,
      readGroups_joinedTail h (Nat.le_of_succ_le_succ hroom)]

theorem zeroRun_spec (gs : List UInt16) :
    (zeroRun gs).1 + (zeroRun gs).2 ≤ gs.length ∧
      gs.take (zeroRun gs).1 ++ List.replicate (zeroRun gs).2 0 ++
        gs.drop ((zeroRun gs).1 + (zeroRun gs).2) = gs := by
  induction gs with
  | nil => exact ⟨le_rfl, rfl⟩
  | cons g gs ih =>
    rw [zeroRun]
    split
    next =>
      have hprefix := List.takeWhile_prefix (l := g :: gs) (· == 0)
      have hzeros :=
        List.eq_replicate_of_mem (a := (0 : UInt16)) (l := (g :: gs).takeWhile (· == 0))
        fun b hb => by simpa using List.mem_takeWhile_imp hb
      refine ⟨by rw [Nat.zero_add]; exact hprefix.length_le, ?_⟩
      rw [List.take_zero, List.nil_append, Nat.zero_add, ← hzeros]
      exact List.prefix_iff_eq_append.1 hprefix
    next =>
      obtain ⟨hlength, hsplit⟩ := ih
      rw [List.length_cons, List.take_succ_cons, Nat.add_right_comm, List.drop_succ_cons,
        List.cons_append, List.cons_append, hsplit]
      exact ⟨Nat.succ_le_succ hlength, rfl⟩

theorem readIpv6_of_full {ip : Ipv6} {cs rest : List Char}
    (h : readGroups 8 true cs = ⟨ip.groups, false, rest⟩) :
    readIpv6 cs = some (ip, rest) := by
  simp only [readIpv6, h, ip.eight, dif_pos]

theorem readIpv6_of_gap {ip : Ipv6} (zeros : Nat) {front : List UInt16} {cs behind : List Char}
    {back : Groups} (hfront : readGroups 8 true cs = ⟨front, false, ':' :: ':' :: behind⟩)
    (hback : readGroups (7 - front.length) true behind = back) (hzeros : 0 < zeros)
    (hip : front ++ List.replicate zeros 0 ++ back.values = ip.groups) :
    readIpv6 cs = some (ip, back.rest) := by
  have height := ip.eight
  rw [← hip, List.length_append, List.length_append, List.length_replicate] at height
  have hroom : 8 - front.length - back.values.length = zeros := by omega
  have hfull : front.length ≠ 8 := by omega
  simp [readIpv6, hfront, hback, hfull, hroom, hip, ip.eight]

theorem octets_join (g : UInt16) :
    (g / 256).toUInt8.toUInt16 * 256 + (g % 256).toUInt8.toUInt16 = g := by
  rw [← UInt16.toNat_inj]
  have hg := g.toNat_lt
  simp [UInt16.toNat_add, UInt16.toNat_mul]
  omega

theorem groups_of_mapped {ip : Ipv6} {tail : Ipv4} (h : ip.mapped? = some tail) :
    ip.groups = [0, 0, 0, 0, 0] ++ 0xFFFF :: tail.groups := by
  rw [Ipv6.mapped?] at h
  split at h
  next hi lo hgroups =>
    cases h
    rw [hgroups, Ipv4.groups, octets_join, octets_join]
    rfl
  next => cases h

theorem readGroups_quad (ip : Ipv4) {rest : List Char} (h : Stops rest) (room : Nat) :
    readGroups (room + 2) false (':' :: (ip.chars ++ rest)) = ⟨ip.groups, true, rest⟩ := by
  rw [readGroups]
  simp only [Bool.false_eq_true, if_false, readChar_self, Nat.succ_ne_zero,
    readIpv4_chars ip fun _ => h.not_digit 10]

theorem readIpv6_chars (ip : Ipv6) {rest : List Char} (h : Over rest) :
    readIpv6 (ip.chars ++ rest) = some (ip, rest) := by
  rw [Ipv6.chars]
  split
  next tail hmapped =>
    let behind := "ffff:".toList ++ (tail.chars ++ rest)
    have hfront : readGroups 8 true (':' :: ':' :: behind) = ⟨[], false, ':' :: ':' :: behind⟩ :=
      readGroups_of_stops (.cons (by decide) _) true rfl 8
    have hback : readGroups 7 true behind = ⟨0xFFFF :: tail.groups, true, rest⟩ := by
      have hstops : Stops (':' :: (tail.chars ++ rest)) := .cons (by decide) _
      have hread : readGroups 7 true behind = _ := readGroups_hex 0xFFFF hstops true rfl 6
      rw [hread, readGroups_quad tail h.stops]
    exact readIpv6_of_gap 5 hfront hback (by decide) (groups_of_mapped hmapped).symm
  next =>
    obtain ⟨hlength, hgroups⟩ := zeroRun_spec ip.groups
    generalize zeroRun ip.groups = run at *
    obtain ⟨start, len⟩ := run
    rw [ip.eight] at hlength
    simp only at hlength hgroups ⊢
    split
    next hlen =>
      have htake : (ip.groups.take start).length = start := by
        rw [List.length_take, ip.eight]
        omega
      have hdrop : (ip.groups.drop (start + len)).length ≤ 7 - (ip.groups.take start).length := by
        rw [htake, List.length_drop, ip.eight]
        omega
      rw [List.append_assoc, List.cons_append, List.cons_append]
      have hroom : (ip.groups.take start).length ≤ 8 := by omega
      have hfront :=
        readGroups_joinGroups (.of_colons (joinGroups (ip.groups.drop (start + len)) ++ rest)) hroom
      exact readIpv6_of_gap len hfront (readGroups_joinGroups h hdrop) (by omega) hgroups
    next => exact readIpv6_of_full (readGroups_joinGroups h ip.eight.le)

theorem readSocketV4_chars (ip : Ipv4) (port : UInt16) :
    readSocketV4 (SocketAddress.v4 ip port).chars = some (.v4 ip port, []) := by
  have hcolon : ∀ c ∈ (':' :: decimal port.toNat).head?, digitBelow 10 c = none := by
    intro c hc
    cases hc
    rfl
  simp only [readSocketV4, SocketAddress.chars, readIpv4_chars ip hcolon, readPort_decimal,
    Option.bind_eq_bind, Option.bind_some, Option.pure_def]

theorem readSocketV6_chars (ip : Ipv6) (scope : UInt32) (port : UInt16) :
    readSocketV6 (SocketAddress.v6 ip scope port).chars = some (.v6 ip scope port, []) := by
  let ending := ']' :: ':' :: decimal port.toNat
  have hover : Over ((if scope = 0 then [] else '%' :: decimal scope.toNat) ++ ending) := by
    split
    · exact .of_head (by decide) (by decide) _
    · exact .of_head (by decide) (by decide) _
  have hchars : (SocketAddress.v6 ip scope port).chars =
      '[' :: (ip.chars ++ ((if scope = 0 then [] else '%' :: decimal scope.toNat) ++ ending)) := by
    rw [SocketAddress.chars, List.append_assoc]
  simp only [hchars, readSocketV6, readChar_self, readIpv6_chars ip hover, ending,
    readScope_decimal, readPort_decimal, Option.bind_eq_bind, Option.bind_some, Option.pure_def]

theorem ofChars?_chars (a : SocketAddress) : SocketAddress.ofChars? a.chars = some a := by
  rw [SocketAddress.ofChars?]
  cases a with
  | v4 ip port =>
    rw [readSocketV4_chars]
    rfl
  | v6 ip scope port =>
    have hquad : readIpv4 (SocketAddress.v6 ip scope port).chars = none :=
      readIpv4_eq_none (Stops.cons (by decide) _).dot_not_mem
    have hbracket : readSocketV4 (SocketAddress.v6 ip scope port).chars = none := by
      rw [readSocketV4, hquad]
      rfl
    rw [hbracket, readSocketV6_chars]
    rfl

theorem hostChars_chars (a : SocketAddress) : hostChars a.chars = a.ip.chars := by
  rw [hostChars, ofChars?_chars]

theorem host_text (a : SocketAddress) : host a.text = a.ip.text := by
  rw [host, SocketAddress.text, String.toList_ofList, hostChars_chars]
  rfl

theorem Over.nil : Over [] where
  stops := .nil
  ends room := by cases room <;> rfl

theorem readIpv4_alone (ip : Ipv4) : readIpv4 ip.chars = some (ip, []) := by
  have hend : ∀ c ∈ ([] : List Char).head?, digitBelow 10 c = none := nofun
  simpa using readIpv4_chars ip hend

theorem readIpv6_ipv4 (ip : Ipv4) : readIpv6 ip.chars = none := by
  have hfront : readGroups 8 true ip.chars = ⟨ip.groups, true, []⟩ := by
    rw [readGroups]
    simp only [if_true, Nat.succ_ne_zero, if_false, readIpv4_alone]
  simp [readIpv6, hfront, Ipv4.groups]

theorem Ip.chars_injective : Function.Injective Ip.chars := by
  have hv6 (ip : Ipv6) : readIpv6 ip.chars = some (ip, []) := by
    simpa using readIpv6_chars ip .nil
  intro a b h
  cases a with
  | v4 a =>
    cases b with
    | v4 b =>
      have hread := readIpv4_alone a
      rw [show a.chars = b.chars from h, readIpv4_alone b] at hread
      cases hread
      rfl
    | v6 b =>
      have hread := readIpv6_ipv4 a
      rw [show a.chars = b.chars from h, hv6 b] at hread
      cases hread
  | v6 a =>
    have hread := hv6 a
    cases b with
    | v4 b =>
      rw [show a.chars = b.chars from h, readIpv6_ipv4 b] at hread
      cases hread
    | v6 b =>
      rw [show a.chars = b.chars from h, hv6 b] at hread
      cases hread
      rfl

end AccessTrail.Net

namespace AccessTrail.Http

/-- The peer of a request is shown as the text of its socket address, and in the record as that of
its address alone, which no other address has. -/
theorem host_of_peer (q : Request) (a : Net.SocketAddress) (stamp : String) (e : Entry) :
    let v := ({ q with peer := some a } : Request).visit
    v.peer = a.text ∧ Net.host v.peer = a.ip.text ∧
      (⟨stamp, v, e⟩ : Record).fields.host = a.ip.chars ∧
      ∀ b : Net.SocketAddress, Net.host b.text = Net.host a.text → b.ip = a.ip := by
  intro v
  have hpeer : v.peer = a.text := rfl
  refine ⟨hpeer, ?_, ?_, fun b hb => ?_⟩
  · rw [hpeer]
    exact Net.host_text a
  · have hchars : v.peer.toList = a.chars := String.toList_ofList
    change Net.hostChars v.peer.toList = a.ip.chars
    rw [hchars]
    exact Net.hostChars_chars a
  · rw [Net.host_text, Net.host_text] at hb
    exact Net.Ip.chars_injective (String.ofList_injective hb)

end AccessTrail.Http
