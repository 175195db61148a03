import AccessTrail.Transport.Planned
import AccessTrail.Proofs.Handler.Course
import AccessTrail.Proofs.Handler.Failure

namespace AccessTrail

variable {σ ℓ : Type}

def Operation.isBody : Operation → Bool
  | write _ | flush => true
  | headers | edit _ | sendHead _ | close | handOver => false

namespace Outcome

def taken (o : Outcome) : Bytes :=
  match o.operation, o.answer with
  | .write bs, .wrote (.done (.ok n)) => bs.take n
  | _, _ => []

def bytes (os : List Outcome) : Bytes := os.flatMap taken

theorem bytes_singleton (o : Outcome) : bytes [o] = o.taken := List.append_nil _

theorem bytes_append (os os' : List Outcome) : bytes (os ++ os') = bytes os ++ bytes os' :=
  List.flatMap_append

def Breaks (o : Outcome) : Prop :=
  match o.operation, o.answer with
  | .write _, .wrote (.done (.error f)) => f.kind ≠ .interrupted
  | .write _, .wrote (.done (.ok n)) => n = 0
  | _, _ => False

def Overruns (o : Outcome) : Prop :=
  match o.operation, o.answer with
  | .write bs, .wrote (.done (.ok n)) => bs.length < n
  | _, _ => False

def Stalls (o : Outcome) : Prop :=
  match o.operation, o.answer with
  | .write _, .wrote (.waiting _) | .flush, .settled (.waiting _) => True
  | .write _, .wrote (.done (.error f)) => f.kind = .interrupted
  | _, _ => False

end Outcome

open Outcome (bytes)

inductive Reach
  | whole
  | broken
  | waiting : (rest : Bytes) → Reach
  | overrun

namespace Reach

variable {r : Reach} {os : List Outcome} {due : Bytes}

/-- These outcomes bring a text that far. -/
def Fits (os : List Outcome) (due : Bytes) : Reach → Prop
  | whole => bytes os = due
  | broken => (∃ o ∈ os, o.Breaks) ∧ bytes os <+: due
  | waiting rest => (∃ o, os.getLast? = some o ∧ o.Stalls) ∧ bytes os ++ rest = due
  | overrun => (∃ o ∈ os, o.Overruns) ∧ bytes os <+: due

theorem Fits.after {before : List Outcome} {rest : Bytes} (h : r.Fits os rest)
    (hbefore : bytes before ++ rest = due) :
    r.Fits (before ++ os) due := by
  subst hbefore
  have hbytes := Outcome.bytes_append before os
  have htaken : bytes os <+: rest → bytes (before ++ os) <+: bytes before ++ rest := fun h => by
    rwa [hbytes, List.prefix_append_right_inj]
  cases r with
  | whole => exact hbytes.trans (congrArg _ h)
  | broken =>
    obtain ⟨⟨o, ho, hbreaks⟩, h⟩ := h
    exact ⟨⟨o, List.mem_append_right _ ho, hbreaks⟩, htaken h⟩
  | waiting rest' =>
    obtain ⟨⟨o, ho, hstalls⟩, h⟩ := h
    refine ⟨⟨o, by rw [List.getLast?_append, ho, Option.some_or], hstalls⟩, ?_⟩
    rw [hbytes, List.append_assoc, h]
  | overrun =>
    obtain ⟨⟨o, ho, hoverruns⟩, h⟩ := h
    exact ⟨⟨o, List.mem_append_right _ ho, hoverruns⟩, htaken h⟩

def beyond (more : Bytes) : Reach → Reach
  | waiting rest => waiting (rest ++ more)
  | r => r

theorem Fits.beyond (h : r.Fits os due) (more : Bytes) (hr : r ≠ .whole) :
    (r.beyond more).Fits os (due ++ more) := by
  cases r with
  | whole => exact absurd rfl hr
  | broken | overrun => exact ⟨h.1, h.2.trans (List.prefix_append due more)⟩
  | waiting rest => exact ⟨h.1, by rw [← List.append_assoc, h.2]⟩

theorem Fits.accepted (h : r.Fits os due) : bytes os <+: due := by
  cases r with
  | whole => exact ⟨[], (List.append_nil _).trans h⟩
  | broken | overrun => exact h.2
  | waiting rest => exact ⟨rest, h.2⟩

end Reach

namespace Transport

def Progress.reach : Progress → Reach
  | finished (.ok ()) => .whole
  | finished (.error _) => .broken
  | waiting _ rest => .waiting rest
  | overrun => .overrun

variable [Transport σ] {start : σ}

theorem outcomes_write {bs : Bytes} {h h' : History start} {answer : Attempt (Except Fault Nat)}
    (hw : write bs h = (answer, h')) :
    ∃ wire, h'.outcomes = h.outcomes ++ [⟨.write bs, .wrote answer, wire⟩] := by
  cases hw
  exact ⟨_, History.outcomes_add (.write bs) h⟩

theorem outcomes_flush {h h' : History start} {answer : Attempt (Except Fault Unit)}
    (hf : flush h = (answer, h')) :
    ∃ wire, h'.outcomes = h.outcomes ++ [⟨.flush, .settled answer, wire⟩] := by
  cases hf
  exact ⟨_, History.outcomes_add .flush h⟩

theorem fits_sendAll (bs : Bytes) (h : History start) :
    ∃ os, (sendAll bs h).2.outcomes = h.outcomes ++ os ∧ (∀ o ∈ os, o.operation.isBody) ∧
      (sendAll bs h).1.reach.Fits os bs := by
  fun_induction sendAll bs h with
  | case1 h => exact ⟨[], (List.append_nil _).symm, List.forall_mem_nil _, rfl⟩
  | case2 h b bs again h' hw =>
    obtain ⟨wire, ho⟩ := outcomes_write hw
    exact ⟨_, ho, by simp [Operation.isBody], ⟨_, rfl, trivial⟩, rfl⟩
  | case3 h b bs f h' hw hf =>
    obtain ⟨wire, ho⟩ := outcomes_write hw
    exact ⟨_, ho, by simp [Operation.isBody], ⟨_, rfl, hf⟩, rfl⟩
  | case4 h b bs f h' hw hf =>
    obtain ⟨wire, ho⟩ := outcomes_write hw
    exact ⟨_, ho, by simp [Operation.isBody], ⟨_, List.mem_singleton_self _, hf⟩, List.nil_prefix⟩
  | case5 h b bs h' hw =>
    obtain ⟨wire, ho⟩ := outcomes_write hw
    exact ⟨_, ho, by simp [Operation.isBody], ⟨_, List.mem_singleton_self _, rfl⟩, List.nil_prefix⟩
  | case6 h b bs n h' hw hn ih =>
    obtain ⟨wire, ho⟩ := outcomes_write hw
    obtain ⟨os, hos, hbody, hfits⟩ := ih
    let o : Outcome := ⟨.write (b :: bs), .wrote (.done (.ok (n + 1))), wire⟩
    have hdue : bytes [o] ++ bs.drop n = b :: bs := by
      rw [Outcome.bytes_singleton]
      exact congrArg (b :: ·) (List.take_append_drop n bs)
    refine ⟨o :: os, ?_, List.forall_mem_cons.2 ⟨rfl, hbody⟩, hfits.after hdue⟩
    rw [hos, ho, List.append_assoc]
    rfl
  | case7 h b bs n h' hw hn =>
    obtain ⟨wire, ho⟩ := outcomes_write hw
    refine ⟨_, ho, by simp [Operation.isBody], ⟨_, List.mem_singleton_self _, ?_⟩, ?_⟩
    · exact Nat.succ_lt_succ (Nat.lt_of_not_le hn)
    · rw [Outcome.bytes_singleton]
      exact List.take_prefix (n + 1) (b :: bs)

end Transport

inductive Polled.Shows : Polled → Reach → Prop
  | whole : Shows (.finished .done) .whole
  | broken : Shows (.finished .done) .broken
  | waiting (again parts) : Shows (.waiting again (.reply parts)) (.waiting parts.flatten)
  | overrun : Shows (.crashed Work.overrunReason) .overrun

structure Replying (due : Bytes) (os : List Outcome) (p : Polled) : Prop where
  body : ∀ o ∈ os, o.operation.isBody
  reach : ∃ r : Reach, r.Fits os due ∧ p.Shows r

namespace Replying

variable {due : Bytes} {os before : List Outcome} {p : Polled} {parts : List Bytes}

theorem after {rest : Bytes} (h : Replying rest os p) (hbody : ∀ o ∈ before, o.operation.isBody)
    (hbefore : bytes before ++ rest = due) : Replying due (before ++ os) p := by
  obtain ⟨r, hfits, hshows⟩ := h.reach
  exact ⟨List.forall_mem_append.2 ⟨hbody, h.body⟩, r, hfits.after hbefore, hshows⟩

theorem due_of_waiting {again : Bool} {w : Work} (h : Replying due os (.waiting again w)) :
    ∃ parts, w = .reply parts ∧ bytes os ++ parts.flatten = due := by
  obtain ⟨r, hfits, hshows⟩ := h.reach
  cases hshows with
  | waiting _ parts => exact ⟨parts, rfl, hfits.2⟩

end Replying

namespace Work

open Transport (Progress)

variable [Transport σ]

theorem replying_pollReply {start : σ} (parts : List Bytes) (x : Exchange (History start) ℓ) :
    ∃ os, (pollReply parts x).2.observer.inner.outcomes = x.observer.inner.outcomes ++ os ∧
      Replying parts.flatten os (pollReply parts x).1 := by
  induction parts generalizing x with
  | nil =>
    rw [pollReply]
    split
    next answer s hs =>
      obtain ⟨wire, ho⟩ := Transport.outcomes_flush hs
      cases answer <;> exact ⟨_, ho, by simp [Operation.isBody], .whole, rfl, .whole⟩
    next again s hs =>
      obtain ⟨wire, ho⟩ := Transport.outcomes_flush hs
      exact ⟨_, ho, by simp [Operation.isBody], .waiting [], ⟨⟨_, rfl, trivial⟩, rfl⟩,
        .waiting again []⟩
  | cons part parts ih =>
    obtain ⟨os, hos, hbody, hfits⟩ := Transport.fits_sendAll part x.observer.inner
    rw [pollReply]
    split
    next s hs =>
      rw [hs] at hos hfits
      obtain ⟨more, hmore, hreplying⟩ := ih (x.setInner s)
      refine ⟨os ++ more, ?_, hreplying.after hbody (congrArg (· ++ parts.flatten) hfits)⟩
      rw [← List.append_assoc, ← hos]
      exact hmore
    next f s hs =>
      rw [hs] at hos hfits
      exact ⟨os, hos, hbody, .broken, hfits.beyond parts.flatten (by simp [Progress.reach]),
        .broken⟩
    next again rest s hs =>
      rw [hs] at hos hfits
      exact ⟨os, hos, hbody, _, hfits.beyond parts.flatten (by simp [Progress.reach]),
        .waiting again (rest :: parts)⟩
    next s hs =>
      rw [hs] at hos hfits
      exact ⟨os, hos, hbody, .overrun, hfits.beyond parts.flatten (by simp [Progress.reach]),
        .overrun⟩

end Work

structure Exchange.Settles (asked : List Bytes) (t : Tally) (x : Exchange σ (Journal ℓ)) :
    Prop where
  logged : x.observer.logged = true
  asked : x.log.asked = asked
  tally : x.observer.tally = t

namespace Exchange.Settles

variable {asked : List Bytes} {t : Tally} {x y : Exchange σ (Journal ℓ)}

theorem unrecorded (h : Settles asked t x) (hxy : Unrecorded x y)
    (htally : y.observer.tally = x.observer.tally) :
    Settles asked t y where
  logged := hxy.logged.trans h.logged
  asked := by rw [hxy.log, h.asked]
  tally := htally.trans h.tally

theorem pass (h : Settles asked t x) (i : Interlude σ ℓ) : Settles asked t (i.journaled.pass x) :=
  ⟨h.logged, h.asked, h.tally⟩

theorem record [Log ℓ] (e : Entry) (x : Exchange σ (Journal ℓ)) :
    Settles (x.log.asked ++ if x.observer.logged then [] else [(x.line e).bytes]) x.observer.tally
      (x.record e).2 := by
  refine ⟨?_, ?_, tally_record e x⟩
  · cases hlogged : x.observer.logged with
    | true => rw [record_of_logged hlogged, hlogged]
    | false => exact (recorded_record hlogged).logged
  · cases hlogged : x.observer.logged with
    | true =>
      exact (congrArg (·.2.log.asked) (record_of_logged hlogged)).trans (List.append_nil _).symm
    | false => exact congrArg Journal.asked (recorded_record hlogged).log

end Exchange.Settles

structure Work.Course (σ ℓ : Type) where
  asked : List Outcome
  polled : Polled
  exchange : Exchange σ ℓ

variable [Transport σ]

section

variable [Log ℓ]

namespace Work

def course : List (Interlude σ ℓ) → Work → Exchange σ ℓ → Course σ ℓ
  | [], w, x => ⟨w.outcomes x, (w.poll x).1, (w.poll x).2⟩
  | i :: is, w, x =>
    match w.poll x with
    | (.waiting _ rest, y) =>
      let c := rest.course is (i.pass y)
      { c with asked := w.outcomes x ++ c.asked }
    | (polled, y) => ⟨w.outcomes x, polled, y⟩

variable {status : Http.Status} {f : Failure}

/-- What the first poll shows and each poll after a wait preserves, the course shows. -/
theorem course_keeps {P : List Outcome → Polled → Exchange σ ℓ → Prop}
    {waits : List (Interlude σ ℓ)} {w : Work}
    {x : Exchange σ ℓ} (hfirst : P (w.outcomes x) (w.poll x).1 (w.poll x).2)
    (hnext : ∀ i ∈ waits, ∀ os again w y, P os (.waiting again w) y →
      P (os ++ w.outcomes (i.pass y)) (w.poll (i.pass y)).1 (w.poll (i.pass y)).2) :
    P (w.course waits x).asked (w.course waits x).polled (w.course waits x).exchange := by
  induction waits generalizing P w x with
  | nil => exact hfirst
  | cons i waits ih =>
    obtain ⟨hi, hnext⟩ := List.forall_mem_cons.1 hnext
    rw [course]
    split
    next again rest y hy =>
      rw [hy] at hfirst
      refine ih (P := fun os => P (w.outcomes x ++ os)) (hi _ _ _ _ hfirst)
        fun i' hi' os again w' y' h => ?_
      rw [← List.append_assoc]
      exact hnext i' hi' _ _ _ _ h
    next polled y _ hy => rwa [hy] at hfirst

theorem course_of_settled {waits : List (Interlude σ ℓ)} {w : Work} {x : Exchange σ ℓ}
    (h : ∀ again rest, (w.poll x).1 ≠ .waiting again rest) :
    w.course waits x = ⟨w.outcomes x, (w.poll x).1, (w.poll x).2⟩ := by
  cases waits with
  | nil => rfl
  | cons i waits =>
    rw [course]
    split
    next again rest y hy => exact absurd (congrArg Prod.fst hy) (h again rest)
    next polled y _ hy => rw [hy]

theorem polled_remember (w : Work) (x : Exchange σ ℓ) : (w.poll x.remember).1 = (w.poll x).1 :=
  (congrArg Prod.fst (w.poll_map History.carries_now x.remember)).symm

theorem replying_reply (parts : List Bytes) (x : Exchange σ ℓ) :
    Replying parts.flatten ((reply parts).outcomes x) ((reply parts).poll x).1 := by
  obtain ⟨os, hos, hreplying⟩ := replying_pollReply parts x.remember
  have houtcomes : (reply parts).outcomes x = os := hos
  have hpolled : (pollReply parts x.remember).1 = _ := polled_remember (reply parts) x
  rwa [houtcomes, ← hpolled]

def replyHead (status : Http.Status) : List Operation :=
  [.edit Exchange.plainText, .sendHead status]

theorem replying_fail {x : Exchange σ ℓ} (h : x.Replies status f) :
    ∃ os, (command (.fail status f)).outcomes x =
      Operation.outcomes (replyHead status) x.observer.inner ++ os ∧
      Replying (Exchange.replyBody f).flatten os ((command (.fail status f)).poll x).1 := by
  obtain ⟨y, hinner, hy⟩ := fail_of_replies (Exchange.replies_remember.2 h)
  obtain ⟨os, hos, hreplying⟩ := replying_pollReply (Exchange.replyBody f) (y.replyHead status)
  rw [← hy] at hos hreplying
  have hhead : (y.replyHead status).observer.inner.past = replyHead status := by
    change y.observer.inner.past ++ [.edit Exchange.plainText] ++ [.sendHead status] = _
    rw [hinner]
    rfl
  refine ⟨os, ?_, ?_⟩
  · rw [← hhead]
    exact hos
  · rw [← polled_remember]
    exact hreplying

end Work

end

namespace Exchange

structure Retyped (h h' : Http.Headers) : Prop extends PlainText h' where
  others : ∀ name, name ≠ "content-length" → name ≠ "content-type" →
    name ≠ "x-content-type-options" →
    h'.values name = h.values name

theorem retyped_plainText (h : Http.Headers) : Retyped h (plainText h) where
  toPlainText := plainText_plain h
  others name hlength htype hsniffing := by
    rw [plainText, Http.Headers.values_set_of_ne hsniffing, Http.Headers.values_set_of_ne htype,
      Http.Headers.values_remove_of_ne hlength]

end Exchange

/-- The transport was told of a failure: one head, and then as much of the text as it took. -/
structure Work.Course.Tells (status : Http.Status) (text : Bytes) (c : Work.Course σ ℓ) : Prop where
  operations : ∃ change rest, c.asked.map (·.operation) = .edit change :: .sendHead status :: rest ∧
    (∀ h, Exchange.Retyped h (change h)) ∧ ∀ op ∈ rest, op.isBody
  accepted : bytes c.asked <+: text
  whole : (∀ o ∈ c.asked, ¬o.Breaks ∧ ¬o.Overruns) → (∀ o, c.asked.getLast? = some o → ¬o.Stalls) →
    bytes c.asked = text
  finished : ∀ r, c.polled = .finished r → r = .done
  waiting : ∀ again w, c.polled = .waiting again w → ∃ o, c.asked.getLast? = some o ∧ o.Stalls
  crashed : ∀ reason, c.polled = .crashed reason → ∃ o ∈ c.asked, o.Overruns

theorem Work.Course.tells_of_replying {status : Http.Status} {text : Bytes} {c : Work.Course σ ℓ}
    {s : σ} {os : List Outcome}
    (hasked : c.asked = Operation.outcomes (Work.replyHead status) s ++ os)
    (h : Replying text os c.polled) : c.Tells status text := by
  obtain ⟨r, hfits, hshows⟩ := h.reach
  replace hfits : r.Fits c.asked text := hasked ▸ hfits.after (List.nil_append text)
  refine ⟨⟨_, os.map (·.operation), ?_, Exchange.retyped_plainText, ?_⟩, hfits.accepted, ?_, ?_, ?_,
    ?_⟩
  · rw [hasked]
    rfl
  · exact List.forall_mem_map.2 h.body
  · intro htakes hmoves
    cases r with
    | whole => exact hfits
    | broken =>
      obtain ⟨⟨o, ho, hbreaks⟩, -⟩ := hfits
      exact absurd hbreaks (htakes o ho).1
    | waiting rest =>
      obtain ⟨⟨o, ho, hstalls⟩, -⟩ := hfits
      exact absurd hstalls (hmoves o ho)
    | overrun =>
      obtain ⟨⟨o, ho, hoverruns⟩, -⟩ := hfits
      exact absurd hoverruns (htakes o ho).2
  · intro reply hreply
    rw [hreply] at hshows
    cases hshows <;> rfl
  · intro again w hw
    rw [hw] at hshows
    cases hshows
    exact hfits.1
  · intro reason hreason
    rw [hreason] at hshows
    cases hshows
    exact hfits.1

section

variable [Log ℓ] {status : Http.Status} {f : Failure}

namespace Work

theorem settles_fail (status : Http.Status) (f : Failure) (x : Exchange σ (Journal ℓ)) :
    let r := x.record (Exchange.failing status f)
    Exchange.Settles
      (x.log.asked ++
        if x.observer.logged then [] else [(x.line (Exchange.failing status f)).bytes])
      (if r.1 = none then { x.observer.tally with status := some status } else x.observer.tally)
      (fail status f x).2 := by
  intro r
  obtain ⟨hlogged, hasked, -⟩ := Exchange.Settles.record (Exchange.failing status f) x
  have hkept := unrecorded_after_fail status f x
  exact ⟨hkept.logged.trans hlogged, (congrArg Journal.asked hkept.log).trans hasked,
    tally_fail status f x⟩

theorem fail_of_crash {x : Exchange σ ℓ} {message : String}
    (h : (x.record (Exchange.failing status f)).1 = some message) :
    (fail status f x).1 = .crashed message := by
  unfold fail
  split
  next hx =>
    rw [hx] at h
    cases h
    rfl
  next hx =>
    rw [hx] at h
    cases h

theorem fail_of_sent {x : Exchange σ ℓ} (hrecord : (x.record (Exchange.failing status f)).1 = none)
    (hsent : x.observer.tally.sent ≠ 0) : (fail status f x).1 = .finished .done := by
  have htally := Exchange.tally_record (Exchange.failing status f) x
  unfold fail
  split
  next hx =>
    rw [hx] at hrecord
    cases hrecord
  next y hx =>
    rw [hx] at htally
    have hy : (y.setStatus status).observer.tally.sent ≠ 0 := fun hy =>
      hsent ((congrArg Tally.sent htally).symm.trans hy)
    simp only
    rw [if_neg hy]

theorem fail_within (outer : String) (x : Exchange σ ℓ) :
    fail status (f.within outer) x = fail status f x := by
  rw [fail, fail, Exchange.failing, Exchange.failing, Exchange.replyBody, Exchange.replyBody,
    Failure.root_within]

theorem course_within (outer : String) (waits : List (Interlude σ ℓ)) (x : Exchange σ ℓ) :
    (command (.fail status (f.within outer))).course waits x =
      (command (.fail status f)).course waits x := by
  cases waits with
  | nil => simp only [course, outcomes, poll, pollCommand, fail_within]
  | cons i waits => simp only [course, outcomes, poll, pollCommand, fail_within]

theorem course_of_not_replies {x : Exchange σ ℓ} (h : ¬x.Replies status f)
    (waits : List (Interlude σ ℓ)) :
    (command (.fail status f)).course waits x = ⟨[], (fail status f x).1, (fail status f x).2⟩ := by
  have hnone : (command (.fail status f)).outcomes x = [] :=
    congrArg History.outcomes (fail_of_not_replies (Exchange.replies_remember.not.2 h)).1
  have hsettled := (fail_of_not_replies h).2
  rw [course_of_settled (w := .command (.fail status f)) hsettled, hnone]
  rfl

theorem course_of_replies {x : Exchange σ (Journal ℓ)} (h : x.Replies status f)
    (waits : List (Interlude σ ℓ)) {asked : List Bytes} {t : Tally}
    (hx : Exchange.Settles asked t (fail status f x).2) :
    let c := (command (.fail status f)).course (waits.map .journaled) x
    c.Tells status (Exchange.replyBody f).flatten ∧ Exchange.Settles asked t c.exchange := by
  intro c
  let P (os : List Outcome) (p : Polled) (y : Exchange σ (Journal ℓ)) : Prop :=
    (∃ more, os = Operation.outcomes (replyHead status) x.observer.inner ++ more ∧
      Replying (Exchange.replyBody f).flatten more p) ∧ Exchange.Settles asked t y
  obtain ⟨⟨more, hasked, hreplying⟩, hsettles⟩ : P c.asked c.polled c.exchange := by
    refine course_keeps (P := P) ⟨replying_fail h, hx⟩ ?_
    rintro i hi os again w y ⟨⟨more, rfl, hreplying⟩, hy⟩
    obtain ⟨i, -, rfl⟩ := List.mem_map.1 hi
    obtain ⟨parts, rfl, hdue⟩ := hreplying.due_of_waiting
    refine ⟨⟨_, List.append_assoc _ _ _, (replying_reply parts _).after hreplying.body hdue⟩, ?_⟩
    exact (hy.pass i).unrecorded (unrecorded_pollReply parts _) (tally_pollReply parts _)
  exact ⟨Course.tells_of_replying hasked hreplying, hsettles⟩

theorem settles_course (status : Http.Status) (f : Failure) (x : Exchange σ (Journal ℓ))
    (waits : List (Interlude σ ℓ)) :
    let r := x.record (Exchange.failing status f)
    Exchange.Settles
      (x.log.asked ++
        if x.observer.logged then [] else [(x.line (Exchange.failing status f)).bytes])
      (if r.1 = none then { x.observer.tally with status := some status } else x.observer.tally)
      ((command (.fail status f)).course (waits.map .journaled) x).exchange := by
  intro r
  have hfail := settles_fail status f x
  by_cases h : x.Replies status f
  · exact (course_of_replies h waits hfail).2
  · rwa [course_of_not_replies h]

end Work

theorem Failure.root_eq_getLast (f : Failure) :
    f.root = (f.text :: f.causes).getLast (List.cons_ne_nil _ _) := by
  have h := List.getLast?_eq_some_getLast (List.cons_ne_nil f.text f.causes)
  rw [List.getLast?_cons] at h
  exact Option.some.inj h

theorem Exchange.flatten_replyBody (f : Failure) :
    (replyBody f).flatten = Utf8.encode (Text.quote f.root ++ ['\n']) := by
  rw [Utf8.encode, List.flatMap_append]
  rfl

end

end AccessTrail
