import AccessTrail.Log.Writer
import Mathlib.Data.List.Infix

namespace AccessTrail

def StoreAnswer.interrupts : StoreAnswer → Bool
  | fail f => f.kind = .interrupted
  | take _ | crash _ => false

namespace WriterLog

def undisturbed (l : WriterLog) : WriterLog :=
  { l with answers := l.answers.filter (!·.interrupts) }

theorem shortOf_prefix (limit : Option Nat) (bs : Bytes) : shortOf limit bs <+: bs :=
  List.take_prefix _ bs

theorem shortOf_append_drop {limit : Option Nat} {bs : Bytes} {b : UInt8} {taken : Bytes}
    (h : shortOf limit bs = b :: taken) : b :: taken ++ bs.drop (taken.length + 1) = bs := by
  obtain ⟨rest, rfl⟩ : b :: taken <+: bs := h ▸ shortOf_prefix limit bs
  rw [← List.length_cons, List.drop_left]

theorem store_prefix (answers : List StoreAnswer) (bs : Bytes) : (store answers bs).2.2 <+: bs := by
  fun_induction store answers bs with
  | case1 => exact List.prefix_rfl
  | case2 => exact List.prefix_rfl
  | case3 => exact List.nil_prefix
  | case4 limit answers bs _ b taken htaken r ih =>
    calc b :: taken ++ r.2.2 <+: b :: taken ++ bs.drop (taken.length + 1) :=
          (List.prefix_append_right_inj _).2 ih
      _ = bs := shortOf_append_drop htaken
  | case5 answers bs _ f hf ih => exact ih
  | case6 => exact List.nil_prefix
  | case7 limit answers bs => exact shortOf_prefix _ bs

theorem stored_of_kept {answers : List StoreAnswer} {bs : Bytes}
    (h : (store answers bs).1 = .kept) :
    (store answers bs).2.2 = bs := by
  fun_induction store answers bs with
  | case1 => rfl
  | case2 => rfl
  | case4 limit answers bs _ b taken htaken r ih =>
    calc b :: taken ++ r.2.2 = b :: taken ++ bs.drop (taken.length + 1) := by rw [ih h]
      _ = bs := shortOf_append_drop htaken
  | case5 answers bs _ f hf ih => exact ih h
  | case3 | case6 | case7 => cases h

theorem store_undisturbed (answers : List StoreAnswer) (bs : Bytes) :
    store (answers.filter (!·.interrupts)) bs =
      ((store answers bs).1, (store answers bs).2.1.filter (!·.interrupts),
        (store answers bs).2.2) := by
  fun_induction store answers bs with
  | case1 answers => rw [store]
  | case2 bs hbs => rw [List.filter_nil, store.eq_2 bs hbs]
  | case3 limit answers bs hbs hnone =>
    rw [List.filter_cons_of_pos rfl, store.eq_3 _ _ _ hbs, hnone]
  | case4 limit answers bs hbs b taken htaken r ih =>
    rw [List.filter_cons_of_pos rfl, store.eq_3 _ _ _ hbs, htaken]
    simp only [ih]
    rfl
  | case5 f answers bs hbs hf ih =>
    rw [List.filter_cons_of_neg (by simp [StoreAnswer.interrupts, hf])]
    exact ih
  | case6 f answers bs hbs hf =>
    rw [List.filter_cons_of_pos (by simp [StoreAnswer.interrupts, hf]), store.eq_4 _ _ _ hbs,
      if_neg hf]
  | case7 limit answers bs hbs => rw [List.filter_cons_of_pos rfl, store.eq_5 _ _ _ hbs]

@[simp] theorem hold_eq (l : WriterLog) : l.hold = l := by
  rw [hold, lock]
  cases l.poisoned <;> rfl

theorem bytes_append (record : Bytes) (l : WriterLog) :
    (l.append record).2.bytes = l.bytes ++ (store l.answers record).2.2 := by
  rw [append, hold_eq]
  rcases store l.answers record with ⟨outcome, answers, stored⟩
  simp only
  split <;> rfl

theorem append_congr {l l' : WriterLog} (hanswers : l.answers = l'.answers)
    (hflushes : l.flushes = l'.flushes) (record : Bytes) :
    (l.append record).1 = (l'.append record).1 := by
  rw [append, append, hold_eq, hold_eq, hanswers, hflushes]
  rcases store l'.answers record with ⟨outcome, answers, stored⟩
  rcases l'.flushes with _ | ⟨_ | f, flushes⟩ <;> cases outcome <;> rfl

theorem append_undisturbed (record : Bytes) (l : WriterLog) :
    l.undisturbed.append record = ((l.append record).1, (l.append record).2.undisturbed) := by
  simp only [append, hold_eq, undisturbed, store_undisturbed]
  rcases store l.answers record with ⟨outcome, answers, stored⟩
  rcases l.flushes with _ | ⟨_ | f, flushes⟩ <;> cases outcome <;> rfl

theorem append_of_willing {l : WriterLog} (hanswers : l.answers = []) (hflushes : l.flushes = [])
    (record : Bytes) :
    (l.append record).1 = .kept := by
  rw [append, hold_eq, hanswers, hflushes]
  cases record <;> rfl

structure Appending where
  before : WriterLog
  record : Bytes

namespace Appending

def outcome (a : Appending) : Appended := (a.before.append a.record).1

def after (a : Appending) : WriterLog := (a.before.append a.record).2

def stored (a : Appending) : Bytes := a.after.bytes.drop a.before.bytes.length

def Unflushed (a : Appending) : Prop := ∃ f, a.before.flushes = some f :: a.after.flushes

def afresh (a : Appending) : Appending :=
  ⟨{ answers := a.before.answers, flushes := a.before.flushes }, a.record⟩

theorem stored_eq (a : Appending) : a.stored = (store a.before.answers a.record).2.2 := by
  rw [stored, after, bytes_append, List.drop_left]

theorem bytes_after (a : Appending) : a.after.bytes = a.before.bytes ++ a.stored := by
  rw [stored_eq, after, bytes_append]

theorem stored_prefix (a : Appending) : a.stored <+: a.record := a.stored_eq ▸ store_prefix _ _

theorem store_of_whole {a : Appending} (h : a.outcome = .kept ∨ a.Unflushed) :
    (store a.before.answers a.record).1 = .kept := by
  rw [outcome, Unflushed, after, append, hold_eq] at h
  revert h
  rcases store a.before.answers a.record with ⟨outcome, answers, stored⟩
  cases outcome with
  | kept => exact fun _ => rfl
  | failed f => simp
  | crashed message => simp

theorem stored_of_whole {a : Appending} (h : a.outcome = .kept ∨ a.Unflushed) :
    a.stored = a.record :=
  a.stored_eq.trans (stored_of_kept (store_of_whole h))

theorem outcome_afresh (a : Appending) : a.afresh.outcome = a.outcome := by
  have hanswers : a.afresh.before.answers = a.before.answers := rfl
  exact append_congr hanswers rfl a.record

theorem stored_afresh (a : Appending) : a.afresh.stored = a.stored := by
  rw [stored_eq, stored_eq]
  rfl

end Appending

def appendings : WriterLog → List Bytes → List Appending
  | _, [] => []
  | l, r :: rs => ⟨l, r⟩ :: appendings (l.append r).2 rs

def appendAll (l : WriterLog) (rs : List Bytes) : WriterLog :=
  rs.foldl (fun l r => (l.append r).2) l

theorem record_appendings (rs : List Bytes) (l : WriterLog) :
    (l.appendings rs).map (·.record) = rs := by
  induction rs generalizing l with
  | nil => rfl
  | cons r rs ih => simp [appendings, ih]

theorem bytes_appendAll (rs : List Bytes) (l : WriterLog) :
    (l.appendAll rs).bytes = l.bytes ++ (l.appendings rs).flatMap (·.stored) := by
  induction rs generalizing l with
  | nil => simp [appendAll, appendings]
  | cons r rs ih =>
    have hfirst : (l.append r).2.bytes = l.bytes ++ (⟨l, r⟩ : Appending).stored :=
      Appending.bytes_after ⟨l, r⟩
    rw [appendAll, List.foldl_cons, ← appendAll, ih, hfirst, appendings, List.flatMap_cons,
      List.append_assoc]

theorem stored_undisturbed (record : Bytes) (l : WriterLog) :
    (⟨l.undisturbed, record⟩ : Appending).stored = (⟨l, record⟩ : Appending).stored := by
  simp only [Appending.stored_eq, undisturbed, store_undisturbed]

theorem appendings_undisturbed (rs : List Bytes) (l : WriterLog) :
    (l.undisturbed.appendings rs).map (fun a => (a.outcome, a.stored)) =
      (l.appendings rs).map fun a => (a.outcome, a.stored) := by
  induction rs generalizing l with
  | nil => rfl
  | cons r rs ih =>
    have hrun := append_undisturbed r l
    rw [appendings, appendings, List.map_cons, List.map_cons, stored_undisturbed, Appending.outcome,
      Appending.outcome, hrun, ih]

/-- A run of appends leaves the beginnings of its records one after the other. A record is there as
a whole if the append returned, or failed over the flush alone. Interruptions change nothing; nor
does it matter to an append what came before it, so that even after a crash a willing writer keeps
the record. -/
theorem stored_in_order (l : WriterLog) (rs : List Bytes) :
    let as := l.appendings rs
    as.map (·.record) = rs ∧ (l.appendAll rs).bytes = l.bytes ++ as.flatMap (·.stored) ∧
    (∀ a ∈ as,
      a.stored <+: a.record ∧
      (a.outcome = .kept ∨ a.Unflushed → a.stored = a.record) ∧
      (a.outcome, a.stored) = (a.afresh.outcome, a.afresh.stored) ∧
      (a.before.answers = [] → a.before.flushes = [] → a.outcome = .kept)) ∧
    (l.undisturbed.appendings rs).map (fun a => (a.outcome, a.stored)) =
      as.map fun a => (a.outcome, a.stored) := by
  intro as
  refine ⟨record_appendings rs l, bytes_appendAll rs l,
    fun a _ => ⟨a.stored_prefix, Appending.stored_of_whole, ?_, ?_⟩, appendings_undisturbed rs l⟩
  · rw [a.outcome_afresh, a.stored_afresh]
  · exact fun hanswers hflushes => append_of_willing hanswers hflushes a.record

theorem stored_in_order_past_crash :
    let l : WriterLog :=
      { answers := [.take (some 1), .fail ⟨.interrupted, .ofKind⟩, .take none, .crash (some 1)]
        flushes := [none, some ⟨.other, .ofKind⟩] }
    let rs : List Bytes := [[0x61, 0x0A], [0x62, 0x0A], [0x63, 0x0A], [0x64, 0x0A]]
    let as := l.appendings rs
    as.map (·.outcome) = [.kept, .crashed crashReason, .failed ⟨.other, .ofKind⟩, .kept] ∧
      as.map (·.stored) = [[0x61, 0x0A], [0x62], [0x63, 0x0A], [0x64, 0x0A]] ∧
      (l.appendAll rs).bytes = as.flatMap (·.stored) ∧
      ∀ a ∈ as, a.outcome = .kept ∨ a.Unflushed → a.stored = a.record := by
  intro l rs as
  obtain ⟨-, hbytes, heach, -⟩ := stored_in_order l rs
  exact ⟨by decide, by decide, hbytes, fun a ha => (heach a ha).2.1⟩

end WriterLog

end AccessTrail
