import AccessTrail.Log.Memory
import AccessTrail.Proofs.Session.Stream

namespace AccessTrail

variable {ℓ : Type}

namespace Session

variable [Log ℓ]

/-- The task is to crash in its next poll. It has then sent a head that comes with a body, which
neither side has ended. -/
structure Crash (s : Session ℓ) (before : List (Event ℓ)) : Prop where
  stays : .drop ∉ before
  working : ∀ crash, (s.run before).task ≠ .ended crash
  crashes : ∃ message, (s.run before).pollTask.2.task = .ended (some message)
  head : ∃ h, (s.run before).pollTask.2.stream.head = some h ∧ h.status ≠ .switchingProtocols
  closed : (s.run before).pollTask.2.stream.closed = false

theorem Crash.told {handler : Handler} {q : Http.Request} {log : ℓ} {now : Clock}
    {before after : List (Event ℓ)} (hc : Crash (start handler q log now) before)
    (hafter : .drop ∉ after) {n : Nat} (hn : Streamed.capacity + 1 < n) :
    Streamed.Told ((start handler q log now).trace (before ++ [.poll]))
      ((start handler q log now).trace
        (before ++ .poll :: (after ++ .head :: List.replicate n .body))) := by
  obtain ⟨message, hcrash⟩ := hc.crashes
  obtain ⟨h, hhead, hstatus⟩ := hc.head
  have hclosed := hc.closed
  -- before the crash the task works, after it only the client does anything
  obtain ⟨steps, hsteps, -, hstop, hall⟩ :=
    run_cut handler q log now hc.stays hc.working hcrash hhead
  have hkept := Streamed.release_crashed (Streamed.run steps (.forRequest q)).2
  rw [hstop] at hhead hclosed
  have hcrashes : Streamed.Crash q steps :=
    ⟨hsteps, ⟨h, hkept.1.symm.trans hhead, hstatus⟩, hkept.2.symm.trans hclosed⟩
  have hfirst : (start handler q log now).trace (before ++ [.poll]) =
      (Streamed.run steps (.forRequest q)).1 ++ [.released true] := by
    rw [(hall [] List.not_mem_nil).1, Streamed.run_append]
    rfl
  rw [hfirst, Streamed.told_concat, (hall _ (by simp [hafter])).1, filterMap_reads]
  exact hcrashes.told (isReading_step? hafter) hn

/-- A client that reads on for long enough is told how the body of a crashed writer ended, whether
the stream is used directly or in a session. -/
theorem crash_told {n : Nat} (hn : Streamed.capacity + 1 < n) :
    (∀ (q : Http.Request) (before after : List Streamed.Step),
      Streamed.Crash q before → (∀ e ∈ after, e.isReading) →
      Streamed.Told (Streamed.run before (.forRequest q)).1
        (Streamed.run
          (before ++ .release true :: (after ++ .takeHead :: List.replicate n .takeBody))
          (.forRequest q)).1) ∧
    ∀ (handler : Handler) (q : Http.Request) (log : ℓ) (now : Clock)
      (before after : List (Event ℓ)),
      Crash (start handler q log now) before → .drop ∉ after →
      Streamed.Told ((start handler q log now).trace (before ++ [.poll]))
        ((start handler q log now).trace
          (before ++ .poll :: (after ++ .head :: List.replicate n .body))) := by
  constructor
  · intro q before after hc hafter
    exact hc.told hafter hn
  · intro handler q log now before after hc hafter
    exact hc.told hafter hn

def crashing (writes : Nat) : Handler := fun _ =>
  Program.sequence (List.replicate writes (.write [0x61])) (.crash "boom")

def crashingAfter (writes : Nat) : Session MemoryLog := start (crashing writes) {} {} ⟨"T", {}⟩

theorem crash_after_one : Crash (crashingAfter 1) [.head] where
  stays := by simp
  working _ := nofun
  crashes := ⟨"boom", rfl⟩
  head := ⟨_, rfl, by decide⟩
  closed := rfl

theorem crash_after_nine : Crash (crashingAfter 9) [.head] where
  stays := by simp
  working _ := nofun
  crashes := ⟨"boom", rfl⟩
  head := ⟨_, rfl, by decide⟩
  closed := rfl

theorem crash_told_after_writes :
    let writes := List.replicate 9 (Streamed.Step.operate (.write [0x61]))
    let direct := writes ++ .release true :: .takeHead :: List.replicate 10 .takeBody
    let served := .head :: .poll :: .head :: List.replicate 10 .body
    (Streamed.Crash {} writes ∧
      List.replicate 9 (.chunk [0x61]) ++ [.finished] <+:
        Streamed.answers (Streamed.run direct (.forRequest {})).1) ∧
    Crash (crashingAfter 1) [.head] ∧
      [.chunk [0x61], .broken Streamed.crashReason] <+:
        Streamed.answers ((crashingAfter 1).trace served) := by
  intro writes direct served
  obtain ⟨hdirect, hserved⟩ := crash_told (ℓ := MemoryLog) (n := 10) (by decide)
  have hwrites : Streamed.Crash {} writes := ⟨by simp [writes], ⟨_, rfl, by decide⟩, rfl⟩
  refine ⟨⟨hwrites, hdirect {} writes [] hwrites (by simp)⟩, crash_after_one, ?_⟩
  exact hserved (crashing 1) {} {} ⟨"T", {}⟩ [.head] [] crash_after_one (by simp)

/-- Nine parts are unread when the handler crashes. -/
theorem not_told_after_nine :
    ¬∀ (handler : Handler) (q : Http.Request) (log : MemoryLog) (now : Clock)
        (before after : List (Event MemoryLog)) (n : Nat),
      Crash (start handler q log now) before → .drop ∉ after → Streamed.capacity + 1 < n →
      let s := start handler q log now
      (Streamed.accepted (s.trace (before ++ [.poll]))).map .chunk ++
          [.broken Streamed.crashReason] <+:
        Streamed.answers
          (s.trace (before ++ .poll :: (after ++ .head :: List.replicate n .body))) := by
  intro h
  have htold := h (crashing 9) {} {} ⟨"T", {}⟩ [.head] [] 10 crash_after_nine (by simp) (by decide)
  have haccepted : Streamed.accepted ((crashingAfter 9).trace [.head, .poll]) =
      List.replicate 9 [0x61] := rfl
  have hanswers :
      Streamed.answers ((crashingAfter 9).trace
        (.head :: .poll :: .head :: List.replicate 10 .body)) =
        List.replicate 9 (.chunk [0x61]) ++ [.finished] := rfl
  change (Streamed.accepted ((crashingAfter 9).trace [.head, .poll])).map .chunk ++ _ <+:
    Streamed.answers ((crashingAfter 9).trace
      (.head :: .poll :: .head :: List.replicate 10 .body)) at htold
  rw [haccepted, hanswers] at htold
  exact absurd htold (by decide)

end Session

end AccessTrail
