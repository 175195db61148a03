import AccessTrail.Proofs.Transport.Crashed
import AccessTrail.Proofs.Transport.Delay
import AccessTrail.Proofs.Transport.Head

/-!
A streamed response and one that is kept whole come to the same: the stream has the asker wait while
its queue is full, and then does what the other one did at once.
-/

namespace AccessTrail

namespace Buffered

theorem body_on (op : Operation) (b : Buffered) : b.body.length ≤ (op.on b).2.body.length := by
  cases op with
  | write bs =>
    change b.body.length ≤ (b.body ++ bs).length
    rw [List.length_append]
    exact Nat.le_add_right _ _
  | headers | edit | sendHead | flush | close | handOver => exact le_rfl

end Buffered

namespace Streamed

/-- The client was told `told` of the body so far, and all that the other transport has besides is
on its way. -/
structure Matches (told : Bytes) (b : Buffered) (s : Streamed) : Prop where
  status : b.status = s.head.map (·.status)
  body : b.body = told ++ s.channel.unread.flatten
  parts : ∀ part ∈ s.queue, ∃ c bs, part = .chunk (c :: bs)
  closed : s.closed = false
  released : s.released = false

def Busy (s : Streamed) : Prop := s.isFull = true ∧ s.head.isSome

namespace Matches

variable {told : Bytes} {b : Buffered} {s : Streamed}

theorem commit (h : Matches told b s) (status : Http.Status) :
    Matches told (b.commit status) (s.commit status) where
  status := by
    rw [head_commit]
    change some (b.status.getD status) = _
    rw [h.status]
    cases s.head <;> rfl
  body := by
    rw [channel_commit]
    exact h.body
  parts := by
    rw [queue_commit]
    exact h.parts
  closed := (closed_commit status s).trans h.closed
  released := (kept_commit status s).1.trans h.released

theorem push (h : Matches told b s) (c : UInt8) (bs : Bytes) :
    Matches told { b with body := b.body ++ c :: bs } (s.push (.chunk (c :: bs))) where
  status := h.status
  body := by
    have hunread : (s.push (.chunk (c :: bs))).channel.unread = s.channel.unread ++ [c :: bs] := by
      simp [Streamed.push, channel, Channel.unread, Part.chunk?]
    rw [hunread, List.flatten_append, ← List.append_assoc, ← h.body]
    simp
  parts := by
    intro part hpart
    rcases List.mem_append.1 hpart with hpart | hpart
    · exact h.parts part hpart
    · exact ⟨c, bs, List.mem_singleton.1 hpart⟩
  closed := h.closed
  released := h.released

theorem release (h : Matches told b s) :
    (Transport.release false s).queue = s.queue ∧ (Transport.release false s).reader = s.reader ∧
      ∃ headers, (Transport.release false s).head = some ⟨b.response.status, headers⟩ := by
  have hstatus : b.response.status = (s.head.map (·.status)).getD .ok := by
    rw [← h.status]
    rfl
  have hqueue : (Transport.release false s).queue = s.queue := by
    simp only [Transport.release, finish]
    cases s.head with
    | none => exact queue_commit .ok s
    | some => rfl
  refine ⟨hqueue, reader_release false s, (s.head.getD ⟨.ok, s.headers⟩).headers, ?_⟩
  rw [hstatus, head_release]
  cases s.head <;> rfl

end Matches

def Conveys (hs : List Happening) (r : Http.Response) : Prop :=
  (∃ headers, heads hs = [⟨r.status, headers⟩]) ∧
    ∃ chunks : List Bytes, chunks.flatten = r.body ∧ chunks.map .chunk ++ [.finished] <+: answers hs

theorem delays (told : Bytes) : Transport.Delays (Matches told) Busy where
  onWire _ := rfl
  editHeaders _ _ _ h := ⟨h.status, h.body, h.parts, h.closed, h.released⟩
  sendHead status _ _ h := h.commit status
  flush _ := ⟨rfl, rfl⟩
  write bs b s h := by
    have hbegun := h.commit .ok
    cases bs with
    | nil =>
      have hempty : b.append [] = b.commit .ok := by simp [Buffered.append, Buffered.commit]
      exact .taken rfl rfl (hempty ▸ hbegun)
    | cons c bs =>
      have hwrite := write_cons c bs s
      rw [h.closed, if_neg Bool.false_ne_true] at hwrite
      by_cases hfull : s.isFull = true
      · rw [if_pos hfull] at hwrite
        have hbusy : Busy (s.commit .ok) := by
          refine ⟨?_, by rw [head_commit]; rfl⟩
          rwa [isFull, queue_commit]
        exact .held (List.cons_ne_nil c bs) hwrite hbegun hbusy rfl
      · rw [if_neg hfull] at hwrite
        exact .taken rfl hwrite (hbegun.push c bs)

theorem Matches.told_of_release {q : Http.Request} {before after : List Step} {b : Buffered}
    (hbefore : ∀ crashed, .release crashed ∉ before)
    (h : Matches (received (run before (forRequest q)).1).flatten b (run before (forRequest q)).2)
    (hstatus : b.response.status ≠ .switchingProtocols) (hafter : ∀ e ∈ after, e.isReading)
    {n : Nat} (hn : capacity + 1 < n) :
    ∃ chunks : List Bytes, chunks.flatten = b.body ∧
      chunks.map .chunk ++ [.finished] <+:
        answers (run
          (before ++ .release false :: (after ++ .takeHead :: List.replicate n .takeBody))
          (forRequest q)).1 := by
  have hsound := sound_run q before
  have hunderway := underway_run q hbefore h.closed
  obtain ⟨hqueue, hreader, headers, hhead⟩ := h.release
  have hleft : Left (Transport.release false (run before (forRequest q)).2) :=
    ⟨rfl, ⟨_, hhead, hstatus⟩, hreader.symm ▸ hunderway.reader⟩
  have hlength : (Transport.release false (run before (forRequest q)).2).queue.length < n := by
    rw [hqueue]
    exact hsound.bound.trans_lt hn
  refine ⟨accepted (run before (forRequest q)).1, ?_, ?_⟩
  · rw [← hsound.books (hsound.reader.2 hunderway.reader), List.flatten_append]
    exact h.body.symm
  · rw [run_append, answers_append]
    have htold :=
      told_of_left hbefore h.closed hleft (hqueue.trans (List.append_nil _).symm) hafter hlength
    rwa [answers_append] at htold

end Streamed

end AccessTrail
