import AccessTrail.Handler.Run
import AccessTrail.Proofs.Exchange

namespace AccessTrail

variable {σ ℓ : Type}

def Observer.SameBooks (o o' : Observer σ) : Prop := o'.visit = o.visit ∧ o'.logged = o.logged

def Command.entry? : Command → Option Entry
  | .record e => some e
  | .fail status f => some ⟨UInt16.ofNat status.code, {}, 0, "-", f.root⟩
  | _ => none

def Work.entry? : Work → Option Entry
  | .command c => c.entry?
  | .reply _ | .yielded => none

namespace Work

open Exchange (Unrecorded Recorded)

theorem unrecorded_setObserver {x : Exchange σ ℓ} {o : Observer σ} (h : x.observer.SameBooks o) :
    Unrecorded x (setObserver o x) := ⟨h.1, h.2, rfl, rfl, rfl⟩

theorem unrecorded_replied (answer : Except Fault Unit) (x : Exchange σ ℓ) :
    Unrecorded x (replied answer x).2 := by
  cases answer with
  | ok => exact .refl x
  | error f => exact .note _ x

theorem unrecorded_attempt (c : Command)
    {act : Observer σ → Attempt (Except Fault Unit) × Observer σ} (x : Exchange σ ℓ)
    (h : x.observer.SameBooks (act x.observer).2) : Unrecorded x (attempt c act x).2 := by
  unfold attempt
  split <;> next o hact => exact unrecorded_setObserver (by simpa [hact] using h)

theorem attempt_waiting {c : Command} {act : Observer σ → Attempt (Except Fault Unit) × Observer σ}
    {x y : Exchange σ ℓ} {again : Bool} {w : Work}
    (h : attempt c act x = (.waiting again w, y)) : w = .command c := by
  unfold attempt at h
  split at h
  · cases h
  · cases h; rfl

end Work

variable [Transport σ]

theorem Transport.sendAll_keeps {P : σ → Prop} (h : ∀ bs s, P s → P (write bs s).2) (bs : Bytes)
    (s : σ) (hs : P s) : P (sendAll bs s).2 := by
  fun_induction sendAll bs s with
  | case1 => exact hs
  | case2 s b bs again s' hw => simpa [hw] using h (b :: bs) s hs
  | case3 s b bs f s' hw => simpa [hw] using h (b :: bs) s hs
  | case4 s b bs f s' hw => simpa [hw] using h (b :: bs) s hs
  | case5 s b bs s' hw => simpa [hw] using h (b :: bs) s hs
  | case6 s b bs s' n hw hn ih => exact ih (by simpa [hw] using h (b :: bs) s hs)
  | case7 s b bs s' n hw => simpa [hw] using h (b :: bs) s hs

namespace Observer

theorem sameBooks_write (bs : Bytes) (o : Observer σ) : SameBooks o (Transport.write bs o).2 := by
  change SameBooks o (write bs o).2
  unfold write
  split <;> exact ⟨rfl, rfl⟩

theorem sameBooks_sendAll (bs : Bytes) (o : Observer σ) :
    SameBooks o (Transport.sendAll bs o).2 := by
  apply Transport.sendAll_keeps (P := SameBooks o)
  · intro bs o' h
    have hw := sameBooks_write bs o'
    exact ⟨hw.1.trans h.1, hw.2.trans h.2⟩
  · exact ⟨rfl, rfl⟩

theorem sameBooks_handOver {o o' : Observer σ} {h : Except Refusal Http.Handover}
    (hh : Transport.handOver o = some (h, o')) : SameBooks o o' := by
  change (Transport.handOver o.inner).map _ = _ at hh
  obtain ⟨⟨h', s⟩, -, hs⟩ := Option.map_eq_some_iff.1 hh
  cases hs
  exact ⟨rfl, rfl⟩

end Observer

namespace Work

open Exchange (Unrecorded Recorded)

theorem unrecorded_pollReply (parts : List Bytes) (x : Exchange σ ℓ) :
    Unrecorded x (pollReply parts x).2 := by
  induction parts generalizing x with
  | nil =>
    rw [pollReply]
    split
    next answer s _ => exact (Unrecorded.setInner s x).trans (unrecorded_replied answer _)
    next again s _ => exact .setInner s x
  | cons part parts ih =>
    rw [pollReply]
    split
    next s _ => exact (Unrecorded.setInner s x).trans (ih _)
    next f s _ => exact (Unrecorded.setInner s x).trans (unrecorded_replied (.error f) _)
    next again rest s _ => exact .setInner s x
    next s _ => exact .setInner s x

theorem pollReply_waiting {parts : List Bytes} {x y : Exchange σ ℓ} {again : Bool} {w : Work}
    (h : pollReply parts x = (.waiting again w, y)) : w.entry? = none := by
  induction parts generalizing x with
  | nil =>
    rw [pollReply] at h
    split at h
    next answer s _ => cases answer <;> cases h
    next => cases h; rfl
  | cons part parts ih =>
    rw [pollReply] at h
    split at h
    · exact ih h
    · cases h
    · cases h; rfl
    · cases h

variable [Log ℓ]

theorem unrecorded_after_fail (status : Http.Status) (f : Failure) (x : Exchange σ ℓ) :
    Unrecorded (x.record (Exchange.failing status f)).2 (fail status f x).2 := by
  unfold fail
  split
  next message y h =>
    rw [h]
    exact .refl y
  next y h =>
    rw [h]
    simp only
    split
    · exact (Unrecorded.setStatus status y).trans
        ((Unrecorded.replyHead status _).trans (unrecorded_pollReply _ _))
    · exact .setStatus status y

theorem pollCommand_record_snd (e : Entry) (x : Exchange σ ℓ) :
    (pollCommand (.record e) x).2 = (x.record e).2 := by
  unfold pollCommand
  simp only
  split <;> next h => rw [h]

theorem unrecorded_pollCommand {c : Command} {x : Exchange σ ℓ} (h : c.entry? = none) :
    Unrecorded x (pollCommand c x).2 := by
  cases c with
  | record e => cases h
  | fail status f => cases h
  | write bs =>
    have hw := Observer.sameBooks_write bs x.observer
    unfold pollCommand
    simp only
    split <;> next hs => exact unrecorded_setObserver (by simpa [hs] using hw)
  | writeAll bs =>
    have hw := Observer.sameBooks_sendAll bs x.observer
    unfold pollCommand
    simp only
    split <;> next hs => exact unrecorded_setObserver (by simpa [hs] using hw)
  | flush => exact unrecorded_attempt _ x ⟨rfl, rfl⟩
  | close => exact unrecorded_attempt _ x ⟨rfl, rfl⟩
  | sendHead status => exact ⟨rfl, rfl, rfl, rfl, rfl⟩
  | edit change => exact unrecorded_setObserver ⟨rfl, rfl⟩
  | handOver =>
    unfold pollCommand
    simp only
    split
    · exact .refl x
    · next hs => exact unrecorded_setObserver (Observer.sameBooks_handOver hs)
    · next hs => exact unrecorded_setObserver (Observer.sameBooks_handOver hs)
  | note n => exact .note n x
  | sendRaw bs => exact ⟨rfl, rfl, rfl, rfl, rfl⟩
  | offers | headers | tally | yield | stall => exact .refl x

theorem unrecorded_pollCommand_of_logged {c : Command} {x : Exchange σ ℓ}
    (h : x.observer.logged = true) : Unrecorded x (pollCommand c x).2 := by
  cases hc : c.entry? with
  | none => exact unrecorded_pollCommand hc
  | some e =>
    cases c with
    | record e =>
      rw [pollCommand_record_snd, Exchange.record_of_logged h]
      exact .refl x
    | fail status f =>
      have hf := unrecorded_after_fail status f x
      rwa [Exchange.record_of_logged h] at hf
    | _ => cases hc

theorem recorded_pollCommand {c : Command} {x : Exchange σ ℓ} {e : Entry}
    (hc : c.entry? = some e) (h : x.observer.logged = false) :
    Recorded e x (pollCommand c x).2 := by
  cases c with
  | record e' =>
    cases hc
    rw [pollCommand_record_snd]
    exact Exchange.recorded_record h
  | fail status f =>
    cases hc
    exact (Exchange.recorded_record h).trans (unrecorded_after_fail status f x)
  | _ => cases hc

theorem replies_pollCommand (c : Command) (x : Exchange σ ℓ) :
    (pollCommand c x).2.replies = x.replies := by
  cases hx : x.observer.logged with
  | true => exact (unrecorded_pollCommand_of_logged hx).replies
  | false =>
    cases hc : c.entry? with
    | none => exact (unrecorded_pollCommand hc).replies
    | some e => exact (recorded_pollCommand hc hx).replies

theorem accounted_pollCommand {v : Http.Visit} {e? : Option Entry} {x : Exchange σ (Journal ℓ)}
    (h : Accounted v e? x) (c : Command) : Accounted v (e?.or c.entry?) (pollCommand c x).2 := by
  cases e? with
  | some e => exact h.unrecorded (unrecorded_pollCommand_of_logged h.logged)
  | none =>
    rw [Option.none_or]
    cases hc : c.entry? with
    | none => exact h.unrecorded (unrecorded_pollCommand hc)
    | some e => exact h.recorded (recorded_pollCommand hc h.logged)

theorem unrecorded_poll {w : Work} {x : Exchange σ ℓ} (h : w.entry? = none) :
    Unrecorded x (w.poll x).2 := by
  cases w with
  | command c => exact unrecorded_pollCommand h
  | reply parts => exact unrecorded_pollReply parts x
  | yielded => exact .refl x

theorem pollCommand_waiting {c : Command} {x y : Exchange σ ℓ} {again : Bool} {w : Work}
    (h : pollCommand c x = (.waiting again w, y)) : w.entry? = none := by
  unfold pollCommand at h
  cases c with
  | flush => rw [attempt_waiting h]; rfl
  | close => rw [attempt_waiting h]; rfl
  | yield => cases h; rfl
  | stall => cases h; rfl
  | fail status f =>
    simp only [fail] at h
    split at h
    · cases h
    · split at h
      · exact pollReply_waiting h
      · cases h
  | sendHead | edit | offers | sendRaw | headers | tally | note => cases h
  | write | record | handOver =>
    simp only at h
    split at h <;> cases h
  | writeAll bs =>
    simp only at h
    split at h <;> cases h
    rfl

theorem poll_waiting {w w' : Work} {x y : Exchange σ ℓ} {again : Bool}
    (h : w.poll x = (.waiting again w', y)) : w'.entry? = none := by
  cases w with
  | command c => exact pollCommand_waiting h
  | reply parts => exact pollReply_waiting h
  | yielded => cases h

end Work

end AccessTrail
