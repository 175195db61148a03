import AccessTrail.Observer

/-!
Transports that come to the same, though one of them may have its asker wait where the other one
answers at once. An observer cannot tell them apart either.
-/

namespace AccessTrail

variable {σ τ : Type} [Transport σ] [Transport τ]

namespace Transport

/-- What comes of bytes that are offered to both. While `b` has the asker wait, `a'` stands for it:
a write that is begun there is as good as one that is begun at `a`. -/
inductive Offered (R : σ → τ → Prop) (Busy : τ → Prop) (bs : Bytes) (a : σ) (b : τ) : Prop
  | taken {a' b'} : write bs a = (.done (.ok bs.length), a') →
      write bs b = (.done (.ok bs.length), b') →
    R a' b' → Offered R Busy bs a b
  | held {a' b'} : bs ≠ [] → write bs b = (.waiting false, b') → R a' b' → Busy b' →
    write bs a' = write bs a → Offered R Busy bs a b

/-- Whatever is asked, `b` does as `a` does, but a busy `b` may have the asker wait first. -/
structure Delays (R : σ → τ → Prop) (Busy : τ → Prop) : Prop where
  onWire : ∀ {a b}, R a b → onWire b = onWire a
  editHeaders : ∀ change {a b}, R a b → R (editHeaders change a) (editHeaders change b)
  sendHead : ∀ status {a b}, R a b → R (sendHead status a).1 (sendHead status b).1
  write : ∀ bs {a b}, R a b → Offered R Busy bs a b
  flush : ∀ {a b}, R a b → flush a = (.done (.ok ()), a) ∧ flush b = (.done (.ok ()), b)

theorem sendAll_of_taken {b : UInt8} {bs : Bytes} {s s' : σ}
    (h : write (b :: bs) s = (.done (.ok (bs.length + 1)), s')) :
    sendAll (b :: bs) s = (.finished (.ok ()), s') := by
  rw [sendAll, h]
  simp [sendAll]

theorem sendAll_of_waiting {b : UInt8} {bs : Bytes} {s s' : σ} {again : Bool}
    (h : write (b :: bs) s = (.waiting again, s')) :
    sendAll (b :: bs) s = (.waiting again (b :: bs), s') := by
  rw [sendAll, h]

theorem sendAll_congr {bs : Bytes} {s s' : σ} (hbs : bs ≠ []) (h : write bs s' = write bs s) :
    sendAll bs s' = sendAll bs s := by
  cases bs with
  | nil => exact absurd rfl hbs
  | cons b bs => rw [sendAll, h, ← sendAll]

inductive Sent (R : σ → τ → Prop) (Busy : τ → Prop) (bs : Bytes) (a : σ) (b : τ) : Prop
  | taken {a' b'} : sendAll bs a = (.finished (.ok ()), a') →
      sendAll bs b = (.finished (.ok ()), b') →
    R a' b' → Sent R Busy bs a b
  | held {a' b'} : sendAll bs b = (.waiting false bs, b') → R a' b' → Busy b' →
    sendAll bs a' = sendAll bs a → Sent R Busy bs a b

variable {R : σ → τ → Prop} {Busy : τ → Prop}

theorem Delays.sendAll (hR : Delays R Busy) (bs : Bytes) {a : σ} {b : τ} (h : R a b) :
    Sent R Busy bs a b := by
  cases bs with
  | nil => exact .taken (by rw [Transport.sendAll]) (by rw [Transport.sendAll]) h
  | cons c bs =>
    cases hR.write (c :: bs) h with
    | taken ha hb h' => exact .taken (sendAll_of_taken ha) (sendAll_of_taken hb) h'
    | held hbs hb h' hbusy ha => exact .held (sendAll_of_waiting hb) h' hbusy (sendAll_congr hbs ha)

end Transport

namespace Observer

structure Alike (R : σ → τ → Prop) (o : Observer σ) (o' : Observer τ) : Prop where
  inner : R o.inner o'.inner
  visit : o'.visit = o.visit
  tally : o'.tally = o.tally
  logged : o'.logged = o.logged

theorem write_of_taken {bs : Bytes} {n : Nat} {o : Observer σ} {s : σ}
    (h : Transport.write bs o.inner = (.done (.ok n), s)) :
    Transport.write bs o = (.done (.ok n),
      { o with inner := s, tally := o.tally.begin.count n (Transport.onWire s) }) := by
  change write bs o = _
  rw [write, h]

theorem write_of_waiting {bs : Bytes} {again : Bool} {o : Observer σ} {s : σ}
    (h : Transport.write bs o.inner = (.waiting again, s)) :
    Transport.write bs o = (.waiting again, { o with inner := s, tally := o.tally.begin }) := by
  change write bs o = _
  rw [write, h]

theorem write_of_begun {bs : Bytes} {o : Observer σ} {s : σ}
    (h : Transport.write bs s = Transport.write bs o.inner) :
    Transport.write bs { o with inner := s, tally := o.tally.begin } = Transport.write bs o := by
  change write bs _ = write bs o
  rw [write, write, h]
  rfl

theorem delays {R : σ → τ → Prop} {Busy : τ → Prop} (hR : Transport.Delays R Busy) :
    Transport.Delays (Alike R) fun o => Busy o.inner where
  onWire h := congrArg (fun t : Tally => some t.sent) h.tally
  editHeaders change _ _ h := ⟨hR.editHeaders change h.inner, h.visit, h.tally, h.logged⟩
  sendHead status _ _ h := ⟨hR.sendHead status h.inner, h.visit,
    congrArg (fun t : Tally => { t with status := some status }) h.tally, h.logged⟩
  write bs _ _ h := by
    cases hR.write bs h.inner with
    | taken ha hb hinner =>
      refine .taken (write_of_taken ha) (write_of_taken hb) ⟨hinner, h.visit, ?_, h.logged⟩
      simp only [h.tally, hR.onWire hinner]
    | held hbs hb hinner hbusy ha =>
      refine .held hbs (write_of_waiting hb) ?_ hbusy (write_of_begun ha)
      exact ⟨hinner, h.visit, congrArg Tally.begin h.tally, h.logged⟩
  flush h := by
    obtain ⟨ha, hb⟩ := hR.flush h.inner
    constructor
    · simp only [Transport.flush, ha]
    · simp only [Transport.flush, hb]

end Observer

end AccessTrail
