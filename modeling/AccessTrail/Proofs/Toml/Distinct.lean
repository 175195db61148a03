import AccessTrail.Toml.Document
import Mathlib.Data.List.Nodup

namespace AccessTrail.Toml

inductive Value.Distinct : Value → Prop
  | text (s : String) : Distinct (.text s)
  | integer (i : Int) : Distinct (.integer i)
  | real (r : Real) : Distinct (.real r)
  | boolean (b : Bool) : Distinct (.boolean b)
  | moment : Distinct .moment
  | array (byHeaders : Bool) {vs : List Value} : (∀ v ∈ vs, Distinct v) →
      Distinct (.array byHeaders vs)
  | table (origin : Origin) {fs : Fields} :
    (fs.map Prod.fst).Nodup → (∀ p ∈ fs, Distinct p.2) → Distinct (.table origin fs)

structure Fields.Distinct (fs : Fields) : Prop where
  nodup : (fs.map Prod.fst).Nodup
  values : ∀ p ∈ fs, p.2.Distinct

namespace Fields

variable {fs sub : Fields} {k : String} {v : Value} {origin : Origin}

theorem lookup_eq_none_iff : fs.lookup k = none ↔ k ∉ fs.map Prod.fst := by
  rw [List.lookup_eq_none_iff, List.mem_map]
  simp only [bne_iff_ne, not_exists, not_and]
  exact forall₂_congr fun p _ => ne_comm

theorem lookup_cons_of_ne {k' : String} (h : k ≠ k') (v : Value) (fs : Fields) :
    List.lookup k ((k', v) :: fs) = fs.lookup k := by
  rw [List.lookup_cons, beq_eq_false_iff_ne.2 h]

theorem distinct_nil : Distinct [] := ⟨List.nodup_nil, nofun⟩

theorem map_fst_replace (k : String) (v : Value) (fs : Fields) :
    (replace k v fs).map Prod.fst = fs.map Prod.fst := by
  fun_induction replace k v fs with
  | case1 => rfl
  | case2 => rfl
  | case3 k' v' fs _ ih => exact congrArg (k' :: ·) ih

theorem mem_replace {p : String × Value} (h : p ∈ replace k v fs) : p = (k, v) ∨ p ∈ fs := by
  fun_induction replace k v fs with
  | case1 => exact .inr h
  | case2 => exact (List.mem_cons.1 h).imp_right (List.mem_cons_of_mem _)
  | case3 k' v' fs _ ih =>
    rcases List.mem_cons.1 h with rfl | h
    · exact .inr List.mem_cons_self
    · exact (ih h).imp_right (List.mem_cons_of_mem _)

namespace Distinct

theorem table (h : Distinct fs) (origin : Origin) : (Value.table origin fs).Distinct :=
  .table origin h.nodup h.values

theorem of_table (h : (Value.table origin fs).Distinct) : Distinct fs := by
  cases h with
  | table _ hnodup hvalues => exact ⟨hnodup, hvalues⟩

theorem lookup (h : Distinct fs) (hk : fs.lookup k = some v) : v.Distinct := by
  obtain ⟨before, after, hfs, -⟩ := List.lookup_eq_some_iff.1 hk
  exact h.values (k, v) (by simp [hfs])

theorem concat (h : Distinct fs) (hk : fs.lookup k = none) (hv : v.Distinct) :
    Distinct (fs ++ [(k, v)]) where
  nodup := by
    rw [List.map_append, List.map_singleton, List.nodup_append_comm, List.singleton_append,
      List.nodup_cons]
    exact ⟨lookup_eq_none_iff.1 hk, h.nodup⟩
  values p hp := by
    rcases List.mem_append.1 hp with hp | hp
    · exact h.values p hp
    · rw [List.mem_singleton.1 hp]
      exact hv

theorem replace (h : Distinct fs) (hv : v.Distinct) (k : String) : Distinct (replace k v fs) where
  nodup := by
    rw [map_fst_replace]
    exact h.nodup
  values p hp := by
    rcases mem_replace hp with rfl | hmem
    · exact hv
    · exact h.values p hmem

theorem erase (h : Distinct fs) (k : String) : Distinct (erase k fs) where
  nodup := h.nodup.sublist (List.filter_sublist.map _)
  values p hp := h.values p (List.mem_of_mem_filter hp)

end Distinct

theorem distinct_descend {α : Type} {Q : α → Prop} {dotted : Bool}
    {change : Origin → Fields → Option (Fields × α)}
    (hchange : ∀ origin fs fs' a, Distinct fs → change origin fs = some (fs', a) →
      Distinct fs' ∧ Q a)
    {path : List String} {origin : Origin} {fs fs' : Fields} {a : α} (h : Distinct fs)
    (hd : descend dotted change path origin fs = some (fs', a)) : Distinct fs' ∧ Q a := by
  induction path generalizing origin fs fs' with
  | nil => exact hchange origin fs fs' a h hd
  | cons k path ih =>
    rw [descend] at hd
    split at hd
    next hk =>
      obtain ⟨⟨sub, b⟩, hsub, heq⟩ := Option.map_eq_some_iff.1 hd
      cases heq
      obtain ⟨hdistinct, hQ⟩ := ih distinct_nil hsub
      exact ⟨h.concat hk (hdistinct.table _), hQ⟩
    next => cases hd
    next origin' sub _ hk =>
      split at hd
      · cases hd
      obtain ⟨⟨sub', b⟩, hsub, heq⟩ := Option.map_eq_some_iff.1 hd
      cases heq
      obtain ⟨hdistinct, hQ⟩ := ih (.of_table (h.lookup hk)) hsub
      exact ⟨h.replace (hdistinct.table _) k, hQ⟩
    next items hk =>
      split at hd
      next origin' sub hlast =>
        obtain ⟨⟨sub', b⟩, hsub, heq⟩ := Option.map_eq_some_iff.1 hd
        cases heq
        cases h.lookup hk with
        | array _ hitems =>
        obtain ⟨hdistinct, hQ⟩ := ih (.of_table (hitems _ (List.mem_of_getLast? hlast))) hsub
        refine ⟨h.replace (.array true fun v hv => ?_) k, hQ⟩
        rcases List.mem_append.1 hv with hv | hv
        · exact hitems v (List.dropLast_subset _ hv)
        · rw [List.mem_singleton.1 hv]
          exact hdistinct.table _
      · cases hd
    next => cases hd

theorem distinct_put {path : List String} {k : String} {v : Value} {fs fs' : Fields}
    (h : Distinct fs) (hv : v.Distinct) (hput : put path k v fs = some fs') : Distinct fs' := by
  obtain ⟨⟨fs₁, u⟩, hd, rfl⟩ := Option.map_eq_some_iff.1 hput
  refine (distinct_descend (Q := fun _ => True) (fun origin sub sub' a hsub hchange => ?_) h hd).1
  split at hchange
  · cases hchange
  split at hchange
  · cases hchange
  next hk =>
    cases hchange
    exact ⟨hsub.concat (Option.not_isSome_iff_eq_none.1 hk) hv, trivial⟩

end Fields

def Reader.Gives {α : Type} (P : α → Prop) (r : Reader α) : Prop :=
  ∀ cs a rest, r cs = some (a, rest) → P a

section Nested

variable {value : Reader Value} (hvalue : Reader.Gives Value.Distinct value)
include hvalue

theorem distinct_items {n : Nat} {cs rest : List Char} {vs : List Value}
    (h : items value n cs = some (vs, rest)) :
    ∀ v ∈ vs, v.Distinct := by
  induction n generalizing cs rest vs with
  | zero => cases h
  | succ n ih =>
    rw [items] at h
    split at h
    · cases h
      exact nofun
    split at h
    · cases h
    next v _ hread =>
      have hv := hvalue _ _ _ hread
      split at h
      · obtain ⟨⟨vs', rest'⟩, hrest, heq⟩ := Option.map_eq_some_iff.1 h
        cases heq
        exact List.forall_mem_cons.2 ⟨hv, ih hrest⟩
      · cases h
        exact List.forall_mem_singleton.2 hv
      · cases h

theorem distinct_pair : Reader.Gives (fun p : Pair => p.value.Distinct) (pair? value) := by
  intro cs p rest h
  rw [pair?] at h
  split at h
  · obtain ⟨⟨v, rest'⟩, hread, heq⟩ := Option.map_eq_some_iff.1 h
    cases heq
    exact hvalue _ _ _ hread
  · cases h

theorem distinct_pairs {n : Nat} {cs rest : List Char} {ps : List Pair}
    (h : pairs value n cs = some (ps, rest)) :
    ∀ p ∈ ps, p.value.Distinct := by
  induction n generalizing cs rest ps with
  | zero => cases h
  | succ n ih =>
    rw [pairs] at h
    split at h
    · cases h
    next p _ hread =>
      have hp := distinct_pair hvalue _ _ _ hread
      split at h
      · obtain ⟨⟨ps', rest'⟩, hrest, heq⟩ := Option.map_eq_some_iff.1 h
        cases heq
        exact List.forall_mem_cons.2 ⟨hp, ih hrest⟩
      · cases h
        exact List.forall_mem_singleton.2 hp
      · cases h

end Nested

theorem distinct_putAll {ps : List Pair} (hps : ∀ p ∈ ps, p.value.Distinct) {fs fs' : Fields}
    (hfs : Fields.Distinct fs)
    (h : ps.foldlM (fun fs p => fs.put p.path p.name p.value) fs = some fs') :
    Fields.Distinct fs' := by
  induction ps generalizing fs with
  | nil =>
    cases h
    exact hfs
  | cons p ps ih =>
    obtain ⟨hp, hps⟩ := List.forall_mem_cons.1 hps
    obtain ⟨fs₁, hput, hrest⟩ := Option.bind_eq_some_iff.1 h
    exact ih hps (Fields.distinct_put hfs hp hput) hrest

theorem distinct_braces {value : Reader Value} (hvalue : Reader.Gives Value.Distinct value) :
    Reader.Gives Value.Distinct (braces value) := by
  intro cs v rest h
  rw [braces] at h
  split at h
  · cases h
    exact Fields.distinct_nil.table _
  split at h
  next ps _ hread =>
    obtain ⟨fs, hput, heq⟩ := Option.map_eq_some_iff.1 h
    cases heq
    exact (distinct_putAll (distinct_pairs hvalue hread) Fields.distinct_nil hput).table _
  · cases h

section Numbers

variable {negative : Bool} {v : Value}

theorem distinct_integer {n : Nat} (h : integer? negative n = some v) : v.Distinct := by
  simp only [integer?, Option.ite_none_right_eq_some] at h
  cases h.2
  exact .integer _

theorem distinct_real {n : Nat} {scale : Int} (h : real? negative n scale = some v) :
    v.Distinct := by
  rw [real?] at h
  split at h
  · cases h
    exact .real _
  · split at h <;> cases h
    exact .real _

theorem distinct_based (base : Nat) (p : Char → Bool) :
    Reader.Gives Value.Distinct (based? base p) := by
  intro cs v rest h
  simp only [based?, Option.bind_eq_bind, Option.bind_eq_some_iff] at h
  obtain ⟨digits, -, v', hv, heq⟩ := h
  cases heq
  exact distinct_integer hv

theorem distinct_decimal (negative : Bool) : Reader.Gives Value.Distinct (decimal? negative) := by
  intro cs v rest h
  obtain ⟨⟨whole, cs₁⟩, -, h⟩ := Option.bind_eq_some_iff.1 h
  obtain ⟨⟨places, cs₂⟩, -, h⟩ := Option.bind_eq_some_iff.1 h
  obtain ⟨⟨power, cs₃⟩, -, h⟩ := Option.bind_eq_some_iff.1 h
  dsimp only at h
  split at h
  · obtain ⟨v', hv, heq⟩ := Option.bind_eq_some_iff.1 h
    cases heq
    exact distinct_integer hv
  · obtain ⟨v', hv, heq⟩ := Option.bind_eq_some_iff.1 h
    cases heq
    exact distinct_real hv

theorem distinct_number : Reader.Gives Value.Distinct number? := by
  intro cs v rest h
  unfold number? at h
  split at h
  · exact distinct_based _ _ _ _ _ h
  · exact distinct_based _ _ _ _ _ h
  · exact distinct_based _ _ _ _ _ h
  · split at h
    · cases h
      exact .real _
    · cases h
      exact .real _
    · exact distinct_decimal _ _ _ _ h

end Numbers

theorem distinct_moment : Reader.Gives Value.Distinct moment? := by
  intro cs v rest h
  obtain ⟨rest', -, heq⟩ := Option.map_eq_some_iff.1 h
  cases heq
  exact .moment

theorem distinct_value (depth : Nat) : Reader.Gives Value.Distinct (value depth) := by
  induction depth using Nat.strongRecOn with
  | ind depth ih =>
    intro cs v rest h
    unfold value at h
    split at h
    next d _ =>
      obtain ⟨⟨vs, rest'⟩, hread, heq⟩ := Option.map_eq_some_iff.1 h
      cases heq
      exact .array _ (distinct_items (ih d (Nat.lt_succ_self d)) hread)
    next d _ => exact distinct_braces (ih d (Nat.lt_succ_self d)) _ _ _ h
    · cases h
      exact .boolean _
    · cases h
      exact .boolean _
    iterate 2
      · obtain ⟨⟨s, rest'⟩, -, heq⟩ := Option.map_eq_some_iff.1 h
        cases heq
        exact .text _
    · split at h
      · exact distinct_moment _ _ _ h
      · exact distinct_number _ _ _ h

def Line.Distinct : Line → Prop
  | header .. => True
  | pair p => p.value.Distinct

theorem distinct_line : Reader.Gives Line.Distinct line? := by
  intro cs l rest h
  unfold line? at h
  split at h
  · unfold header? at h
    repeat' split at h
    all_goals cases h
    all_goals trivial
  · obtain ⟨⟨p, rest'⟩, hread, heq⟩ := Option.map_eq_some_iff.1 h
    cases heq
    exact distinct_pair (distinct_value _) _ _ _ hread

theorem distinct_linesFrom {n : Nat} {cs : List Char} {ls : List Line}
    (h : linesFrom n cs = some ls) :
    ∀ l ∈ ls, l.Distinct := by
  induction n generalizing cs ls with
  | zero => cases h
  | succ n ih =>
    rw [linesFrom] at h
    split at h
    · cases h
      exact nofun
    · obtain ⟨rest, -, h⟩ := Option.bind_eq_some_iff.1 h
      exact ih h
    · split at h
      · exact ih h
      · obtain ⟨⟨l, rest⟩, hread, h⟩ := Option.bind_eq_some_iff.1 h
        obtain ⟨rest', -, h⟩ := Option.bind_eq_some_iff.1 h
        obtain ⟨ls', hrest, heq⟩ := Option.bind_eq_some_iff.1 h
        cases heq
        exact List.forall_mem_cons.2 ⟨distinct_line _ _ _ hread, ih hrest⟩

theorem distinct_lines {cs : List Char} {ls : List Line} (h : lines? cs = some ls) :
    ∀ l ∈ ls, l.Distinct := by
  unfold lines? at h
  split at h <;> exact distinct_linesFrom h

namespace Draft

structure Distinct (d : Draft) : Prop where
  root : Fields.Distinct d.root
  current : Fields.Distinct d.current

variable {d d' : Draft} {fs : Fields}

theorem Distinct.settle (h : d.Distinct) (hs : d.settle = some fs) : Fields.Distinct fs := by
  unfold Draft.settle at hs
  split at hs
  · cases hs
    exact h.current
  next array path name hunder =>
    clear hunder
    obtain ⟨⟨fs₁, u⟩, hd, rfl⟩ := Option.map_eq_some_iff.1 hs
    refine (Fields.distinct_descend (Q := fun _ => True) (fun origin sub sub' a hsub hchange => ?_)
      h.root hd).1
    have hcurrent := h.current.table .header
    split at hchange
    next items hk =>
      cases hchange
      cases hsub.lookup hk with
      | array _ hitems =>
      refine ⟨hsub.replace (.array true fun v hv => ?_) name, trivial⟩
      rcases List.mem_append.1 hv with hv | hv
      · exact hitems v hv
      · rw [List.mem_singleton.1 hv]
        exact hcurrent
    next hk =>
      cases hchange
      exact ⟨hsub.concat hk hcurrent, trivial⟩
    · cases hchange

theorem distinct_opened {array : Bool} {name : String} (origin : Origin) (fs fs' : Fields)
    (a : Fields) (h : Fields.Distinct fs) (ho : opened array name origin fs = some (fs', a)) :
    Fields.Distinct fs' ∧ Fields.Distinct a := by
  unfold opened at ho
  split at ho
  next hk =>
    cases ho
    exact ⟨h.concat hk (.array true nofun), Fields.distinct_nil⟩
  · cases ho
    exact ⟨h, Fields.distinct_nil⟩
  · cases ho
    exact ⟨h, Fields.distinct_nil⟩
  next sub hk =>
    cases ho
    exact ⟨h.erase name, .of_table (h.lookup hk)⟩
  · cases ho

theorem Distinct.add (h : d.Distinct) {l : Line} (hl : l.Distinct) (ha : d.add l = some d') :
    d'.Distinct := by
  cases l with
  | pair p =>
    obtain ⟨current, hput, rfl⟩ := Option.map_eq_some_iff.1 ha
    exact ⟨h.root, Fields.distinct_put h.current hl hput⟩
  | header array path name =>
    obtain ⟨root, hsettle, ha⟩ := Option.bind_eq_some_iff.1 ha
    obtain ⟨⟨root', current⟩, hd, heq⟩ := Option.bind_eq_some_iff.1 ha
    cases heq
    obtain ⟨hroot, hcurrent⟩ := Fields.distinct_descend distinct_opened (h.settle hsettle) hd
    exact ⟨hroot, hcurrent⟩

theorem Distinct.addAll (h : d.Distinct) {ls : List Line} (hls : ∀ l ∈ ls, l.Distinct)
    (ha : ls.foldlM Draft.add d = some d') : d'.Distinct := by
  induction ls generalizing d with
  | nil =>
    cases ha
    exact h
  | cons l ls ih =>
    obtain ⟨hl, hls⟩ := List.forall_mem_cons.1 hls
    obtain ⟨d₁, hadd, hrest⟩ := Option.bind_eq_some_iff.1 ha
    exact ih (h.add hl hadd) hls hrest

end Draft

theorem distinct_of_parse {cs : List Char} {fs : Fields} (h : parse? cs = some fs) :
    Fields.Distinct fs := by
  obtain ⟨ls, hlines, h⟩ := Option.bind_eq_some_iff.1 h
  obtain ⟨d, hdraft, h⟩ := Option.bind_eq_some_iff.1 h
  have hstart : Draft.Distinct {} := ⟨Fields.distinct_nil, Fields.distinct_nil⟩
  exact (hstart.addAll (distinct_lines hlines) hdraft).settle h

end AccessTrail.Toml
