import AccessTrail.Proofs.Transport.Streamed
import AccessTrail.Transport.Buffered

namespace AccessTrail

namespace Operation

def edited (h : Http.Headers) : List Operation → Http.Headers
  | [] => h
  | .edit change :: ops => edited (change h) ops
  | _ :: ops => edited h ops

def head? (h : Http.Headers) : List Operation → Option Http.Head
  | [] => none
  | .edit change :: ops => head? (change h) ops
  | .sendHead status :: _ => some ⟨status, h⟩
  | .write _ :: _ => some ⟨.ok, h⟩
  | _ :: ops => head? h ops

theorem edited_append (h : Http.Headers) (ops ops' : List Operation) :
    edited h (ops ++ ops') = edited (edited h ops) ops' := by
  fun_induction edited h ops with
  | case1 => rfl
  | case2 h change ops ih => exact ih
  | case3 h op ops hop ih =>
    rw [List.cons_append, edited, ih]
    exact hop

theorem head?_append (h : Http.Headers) (ops ops' : List Operation) :
    head? h (ops ++ ops') = (head? h ops).or (head? (edited h ops) ops') := by
  induction ops generalizing h with
  | nil => rfl
  | cons op ops ih =>
    cases op with
    | edit change => exact ih (change h)
    | sendHead | write => rfl
    | headers | flush | close | handOver => exact ih h

end Operation

namespace Streamed

theorem head_commit (status : Http.Status) (s : Streamed) :
    (s.commit status).head = some (s.head.getD ⟨status, s.headers⟩) :=
  congrArg Channel.head (channel_commit status s)

theorem head_release (s : Streamed) :
    (Transport.release false s).head = some (s.head.getD ⟨.ok, s.headers⟩) := by
  simp only [Transport.release, finish]
  cases hs : s.head with
  | none => exact (head_commit .ok s).trans (by rw [hs])
  | some => exact hs

theorem head_of_takeHead {s : Streamed} {h : Http.Head} (hs : s.takeHead.1 = .head h) :
    s.head = some h := by
  unfold takeHead at hs
  split at hs
  next hhead => split at hs <;> cases hs <;> exact hhead
  next => split at hs <;> cases hs
  next => cases hs

theorem takeHead_of_head {h : Http.Head} {s : Streamed} (hs : s.head = some h) :
    s.takeHead.1 = if s.reader = .awaiting then .head h else .unexpected := by
  rw [takeHead, hs]
  cases s.reader with
  | awaiting =>
    simp only
    split <;> rfl
  | reading | bodiless | gone => rfl

theorem head_write (bs : Bytes) (s : Streamed) :
    (Transport.write bs s).2.head = some (s.head.getD ⟨.ok, s.headers⟩) := by
  cases bs with
  | nil => exact head_commit .ok s
  | cons b bs =>
    rw [write_cons]
    split
    · exact head_commit .ok s
    · split <;> exact head_commit .ok s

theorem head_on (op : Operation) (s : Streamed) :
    (op.on s).2.head = s.head.or (Operation.head? s.headers [op]) := by
  cases op with
  | sendHead status =>
    rw [Operation.on, Operation.head?]
    exact (head_commit status s).trans (by cases s.head <;> rfl)
  | write bs =>
    rw [Operation.on, Operation.head?]
    exact (head_write bs s).trans (by cases s.head <;> rfl)
  | handOver =>
    obtain ⟨h, hs⟩ := handOver_on s
    rw [hs]
    exact (Option.or_none).symm
  | headers | edit | flush | close => exact (Option.or_none).symm

theorem unsettled_on {op : Operation} {s : Streamed} (h : (op.on s).2.head = none) :
    (op.on s).2.headers = Operation.edited s.headers [op] ∧ (op.on s).2.queue = s.queue := by
  cases op with
  | sendHead status => cases (head_commit status s).symm.trans h
  | write bs => cases (head_write bs s).symm.trans h
  | handOver =>
    obtain ⟨_, hs⟩ := handOver_on s
    rw [hs]
    exact ⟨rfl, rfl⟩
  | headers | edit | flush | close => exact ⟨rfl, rfl⟩

theorem head_operations (ops : List Operation) (s : Streamed) :
    (Operation.run ops s).2.head = s.head.or (Operation.head? s.headers ops) ∧
      ((Operation.run ops s).2.head = none →
        (Operation.run ops s).2.headers = Operation.edited s.headers ops ∧
          (Operation.run ops s).2.queue = s.queue) := by
  induction ops generalizing s with
  | nil => exact ⟨(Option.or_none).symm, fun _ => ⟨rfl, rfl⟩⟩
  | cons op ops ih =>
    obtain ⟨hhead, hrest⟩ := ih (op.on s).2
    have hfirst : Operation.head? s.headers (op :: ops) = (Operation.head? s.headers [op]).or
        (Operation.head? (Operation.edited s.headers [op]) ops) := Operation.head?_append _ [op] ops
    have hedited : Operation.edited s.headers (op :: ops) =
        Operation.edited (Operation.edited s.headers [op]) ops := Operation.edited_append _ [op] ops
    rw [hfirst, hedited, ← Option.or_assoc, ← head_on]
    change (Operation.run ops (op.on s).2).2.head = _ ∧
      ((Operation.run ops (op.on s).2).2.head = none → _)
    rw [hhead]
    cases hop : (op.on s).2.head with
    | some h => exact ⟨rfl, nofun⟩
    | none =>
      obtain ⟨hheaders, hqueue⟩ := unsettled_on hop
      rw [hhead, hop, hheaders, hqueue] at hrest
      rw [hheaders]
      exact ⟨rfl, hrest⟩

end Streamed

namespace Buffered

theorem status_kept {status : Http.Status} {b : Buffered} (hb : b.status = some status)
    (op : Operation) :
    (op.on b).2.status = some status := by
  cases op with
  | sendHead other => exact congrArg (fun s => some (s.getD other)) hb
  | write => exact congrArg (fun s => some (s.getD .ok)) hb
  | headers | edit | flush | close | handOver => exact hb

end Buffered

end AccessTrail
