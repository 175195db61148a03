import AccessTrail.Serving
import AccessTrail.Proofs.Handler.Course

namespace AccessTrail

def Stop.ending : Stop → End
  | returned => .returned
  | crashed message => .crashed message
  | waiting .. => .cancelled

variable {σ ℓ : Type} [Transport σ] [Log ℓ]

theorem End.leave_snd (e : End) (x : Exchange σ ℓ) : (e.leave x).2 = (x.finish e.isCrash).2 := by
  unfold leave
  split <;> next h => rw [h]

theorem End.leave_returned {e : End} {x : Exchange σ ℓ} (h : (e.leave x).1 = .returned) :
    e = .returned := by
  unfold leave at h
  split at h
  · exact h
  · cases h

theorem End.leave_fst (h : Log.Returns ℓ) (e : End) (x : Exchange σ ℓ) : (e.leave x).1 = e := by
  have hrecord : (x.finish e.isCrash).1 = none := Exchange.record_returns h x.closing x
  unfold leave
  split
  next => rfl
  next hcrash =>
    rw [hcrash] at hrecord
    cases hrecord

theorem Stop.returned_of_ending {stop : Stop} (h : stop.ending = .returned) : stop = .returned := by
  cases stop with
  | returned => rfl
  | crashed | waiting => cases h

/-- The handler waits in between and then comes to its end, or is cancelled in the last wait. The
log is asked for one line: that of the first entry the handler asked for, or else of what was noted
when it ended. What the line shows of the request was there when it entered. -/
theorem Handler.recorded_once (handler : Handler) (q : Http.Request) (s : σ) (log : ℓ) (now : Clock)
    (waits : List (Interlude σ ℓ)) (last : Interlude σ ℓ) :
    let c := (Rest.ready (handler q)).course (waits.map .journaled) (.enter q s ⟨log, []⟩ now)
    let z := last.journaled.pass c.exchange
    let visit : Http.Visit :=
      { peer := (q.peer.map (·.text)).getD ""
        method := q.method
        uri := q.uri
        userAgent := (q.headers.get? "user-agent").getD [] }
    let closing : Entry :=
      { status := UInt16.ofNat ((z.observer.tally.status.map (·.code)).getD 0)
        elapsed := z.now.elapsed
        bytes := z.observer.tally.sent
        ratio := Ratio.text z.observer.tally.produced.toNat z.observer.tally.sent.toNat
        message := "" }
    ∃ stamp, (c.stop.ending.leave z).2.log.asked =
      [(⟨stamp, visit, (c.given.findSome? Command.entry?).getD closing⟩ : Record).bytes] := by
  intro c z visit closing
  have hx : Accounted visit none (.enter q s ⟨log, []⟩ now : Exchange σ (Journal ℓ)) :=
    ⟨rfl, rfl, now.stamp, rfl⟩
  have hc : Accounted visit (none.or (entryOf c.given)) c.exchange :=
    Rest.accounted_course hx trivial
  rw [Option.none_or] at hc
  have hz := (Interlude.accounted_pass hc last).finish c.stop.ending.isCrash
  rw [End.leave_snd]
  exact hz.asked

def Interlude.idle : Interlude σ ℓ := {}

theorem Rest.pollOn_eq_course (n : Nat) (r : Rest) (x : Exchange σ ℓ) :
    ∃ k, r.pollOn (n + 1) x = ((r.course (List.replicate k .idle) x).stop,
      (r.course (List.replicate k .idle) x).exchange) := by
  induction n generalizing r x with
  | zero =>
    refine ⟨0, ?_⟩
    rw [pollOn]
    split
    next r' y h => rw [List.replicate_zero, course, h, pollOn]
    next => rfl
  | succ n ih =>
    rw [pollOn]
    split
    next r' y h =>
      obtain ⟨k, hk⟩ := ih r' y
      refine ⟨k + 1, ?_⟩
      rw [hk, List.replicate_succ, course, h]
      rfl
    next => exact ⟨0, rfl⟩

theorem serve_one (p : Program) (x : Exchange σ ℓ) :
    serve 1 p x = ((Rest.ready p).poll x).1.ending.leave ((Rest.ready p).poll x).2 := by
  rw [serve, Rest.pollOn]
  rcases (Rest.ready p).poll x with ⟨_ | message | ⟨_ | _, rest⟩, y⟩ <;> rfl

theorem serve_eq_course (n : Nat) (p : Program) (x : Exchange σ ℓ) :
    ∃ k, serve (n + 1) p x =
      ((Rest.ready p).course (List.replicate k .idle) x).stop.ending.leave
        ((Rest.ready p).course (List.replicate k .idle) x).exchange := by
  obtain ⟨k, hk⟩ := Rest.pollOn_eq_course n (.ready p) x
  refine ⟨k, ?_⟩
  rw [serve, hk]
  cases ((Rest.ready p).course (List.replicate k .idle) x).stop <;> rfl

end AccessTrail
