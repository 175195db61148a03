import AccessTrail.Proofs.Toml.Distinct
import AccessTrail.Settings.Loading
import Mathlib.Data.List.Induction
import Mathlib.Data.List.Nodup

namespace AccessTrail.Settings

open Toml (Value Fields)

inductive Section
  | listener
  | accessLog
  | timeouts
  | observability
  deriving DecidableEq

namespace Section

def name : Section → String
  | listener => "listener"
  | accessLog => "access_log"
  | timeouts => "timeouts"
  | observability => "observability"

abbrev Part : Section → Type
  | listener => Listener
  | accessLog => AccessLog
  | timeouts => Timeouts
  | observability => Observability

def of (s : Settings) : (c : Section) → c.Part
  | listener => s.listener
  | accessLog => s.accessLog
  | timeouts => s.timeouts
  | observability => s.observability

def put (s : Settings) : (c : Section) → c.Part → Settings
  | listener, l => { s with listener := l }
  | accessLog, a => { s with accessLog := a }
  | timeouts, t => { s with timeouts := t }
  | observability, o => { s with observability := o }

def set : (c : Section) → c.Part → String → Value → Except Mismatch c.Part
  | listener => Listener.set
  | accessLog => AccessLog.set
  | timeouts => Timeouts.set
  | observability => Observability.set

theorem name_injective : Function.Injective name := by
  intro c c' h
  revert h
  cases c <;> cases c' <;> decide

theorem of_put (s : Settings) (c : Section) (p : c.Part) : of (put s c p) c = p := by
  cases c <;> rfl

theorem of_put_of_ne (s : Settings) {c c' : Section} (h : c' ≠ c) (p : c.Part) :
    of (put s c p) c' = of s c' := by
  cases c <;> cases c' <;> first | rfl | exact absurd rfl h

end Section

theorem set_section (s : Settings) (c : Section) (origin : Toml.Origin) (fs : Fields) :
    s.set c.name (.table origin fs) =
      (fs.foldlM (fun p f => c.set p f.1 f.2) (c.of {})).map (c.put s) := by
  cases c <;> rfl

theorem set_unknown (s : Settings) {k : String} (hk : ∀ c : Section, c.name ≠ k) (v : Value) :
    s.set k v = .ok s := by
  unfold Settings.set
  split
  · exact absurd rfl (hk .listener)
  · exact absurd rfl (hk .accessLog)
  · exact absurd rfl (hk .timeouts)
  · exact absurd rfl (hk .observability)
  · rfl

inductive Key : Section → Type
  | address : Key .listener
  | destination : Key .accessLog
  | path : Key .accessLog
  | seconds : Key .timeouts
  | level : Key .observability

inductive Destination.Written (d : Destination) : Value → Prop
  | name : Written d (.text d.name)
  | table (origin inner : Toml.Origin) : Written d (.table origin [(d.name, .table inner [])])
  | array (origin : Toml.Origin) (byHeaders : Bool) :
      Written d (.table origin [(d.name, .array byHeaders [])])

namespace Key

variable {c : Section}

def name : Key c → String
  | address => "bind_address"
  | destination => "destination"
  | path => "path"
  | seconds => "request_secs"
  | level => "log_level"

def Shows : Key c → c.Part → Value → Prop
  | address, l, v => v = .text l.bindAddress
  | destination, a, v => a.destination.Written v
  | path, a, v => ∃ p, a.path = some p ∧ v = .text p
  | seconds, t, v => v = .integer t.requestSecs.toNat
  | level, o, v => v = .text o.logLevel

def Alike : Key c → c.Part → c.Part → Prop
  | address, l, l' => l.bindAddress = l'.bindAddress
  | destination, a, a' => a.destination = a'.destination
  | path, a, a' => a.path = a'.path
  | seconds, t, t' => t.requestSecs = t'.requestSecs
  | level, o, o' => o.logLevel = o'.logLevel

def Entered (k : Key c) (found : Option Value) (p : c.Part) : Prop :=
  match found with
  | some v => k.Shows p v
  | none => k.Alike p (c.of {})

def within (k : Key c) : Option Value → Option Value
  | some (.table _ fs) => fs.lookup k.name
  | _ => none

def found (k : Key c) (fs : Fields) : Option Value := k.within (fs.lookup c.name)

end Key

theorem Destination.Written.read {d : Destination} {v : Value} (h : d.Written v) :
    readDestination v = .ok d := by
  have hname : readName d.name = .ok d := by cases d <;> rfl
  cases h with
  | name => exact hname
  | table | array =>
    rw [readDestination, hname]
    rfl

section Fold

variable {α φ : Type} {set : α → String → Value → Except Mismatch α} {name : φ → String}
  {Fits : φ → Value → Prop}
  {Entered : φ → Option Value → α → Prop}

/-- To set a key enters its value for what has the name, and leaves the rest as it was. -/
def Enters (set : α → String → Value → Except Mismatch α) (name : φ → String)
    (Fits : φ → Value → Prop) (Entered : φ → Option Value → α → Prop) : Prop :=
  ∀ a k v, (∀ f, name f = k → Fits f v) →
    ∃ a', set a k v = .ok a' ∧
      ∀ f, (name f = k → Entered f (some v) a') ∧ (name f ≠ k → ∀ o, Entered f o a → Entered f o a')

theorem Enters.foldlM (hset : Enters set name Fits Entered) {initial : α}
    (hinitial : ∀ f, Entered f none initial) {fs : Fields} (hnodup : (fs.map Prod.fst).Nodup)
    (hfits : ∀ f v, fs.lookup (name f) = some v → Fits f v) :
    ∃ a, fs.foldlM (fun a f => set a f.1 f.2) initial = .ok a ∧
      ∀ f, Entered f (fs.lookup (name f)) a := by
  induction fs using List.reverseRecOn with
  | nil => exact ⟨initial, rfl, hinitial⟩
  | append_singleton fs f ih =>
    obtain ⟨k, v⟩ := f
    rw [List.map_append, List.map_singleton, List.nodup_append_comm, List.singleton_append,
      List.nodup_cons] at hnodup
    have hfresh : fs.lookup k = none := Toml.Fields.lookup_eq_none_iff.2 hnodup.1
    have hsame : ∀ f, name f ≠ k → (fs ++ [(k, v)]).lookup (name f) = fs.lookup (name f) := by
      intro f hf
      rw [List.lookup_append, Toml.Fields.lookup_cons_of_ne hf, List.lookup_nil, Option.or_none]
    have hnew : (fs ++ [(k, v)]).lookup k = some v := by simp [List.lookup_append, hfresh]
    obtain ⟨a, hfold, ha⟩ :=
      ih hnodup.2 fun f w hw => hfits f w (by rw [List.lookup_append, hw]; rfl)
    obtain ⟨a', hstep, ha'⟩ := hset a k v fun f hf => hfits f v (hf ▸ hnew)
    refine ⟨a', ?_, fun f => ?_⟩
    · rw [List.foldlM_append, hfold]
      change set a k v >>= pure = _
      rw [hstep]
      rfl
    · by_cases hf : name f = k
      · rw [hf, hnew]
        exact (ha' f).1 hf
      · rw [hsame f hf]
        exact (ha' f).2 hf _ (ha f)

end Fold

theorem Section.enters (c : Section) :
    Enters c.set (Key.name (c := c)) (fun k v => ∃ p, k.Shows p v)
      (fun k o p => k.Entered o p) := by
  cases c with
  | listener =>
    intro l k v hfits
    simp only [Section.set, Listener.set]
    split
    · obtain ⟨l', rfl⟩ := hfits .address rfl
      exact ⟨{ l with bindAddress := l'.bindAddress }, rfl,
        fun | .address => ⟨fun _ => rfl, fun hne => absurd rfl hne⟩⟩
    next hk => exact ⟨l, rfl, fun | .address => ⟨fun h => absurd h.symm hk, fun _ _ => id⟩⟩
  | accessLog =>
    intro a k v hfits
    simp only [Section.set, AccessLog.set]
    split
    · obtain ⟨a', hv⟩ := hfits .destination rfl
      rw [Destination.Written.read hv]
      refine ⟨{ a with destination := a'.destination }, rfl, ?_⟩
      rintro (_ | _)
      · exact ⟨fun _ => hv, fun hne => absurd rfl hne⟩
      · exact ⟨fun h => absurd h (by decide), fun _ _ => id⟩
    · obtain ⟨a', p, -, rfl⟩ := hfits .path rfl
      refine ⟨{ a with path := some p }, rfl, ?_⟩
      rintro (_ | _)
      · exact ⟨fun h => absurd h (by decide), fun _ _ => id⟩
      · exact ⟨fun _ => ⟨p, rfl, rfl⟩, fun hne => absurd rfl hne⟩
    next hdestination hpath =>
      refine ⟨a, rfl, ?_⟩
      rintro (_ | _)
      · exact ⟨fun h => absurd h.symm hdestination, fun _ _ => id⟩
      · exact ⟨fun h => absurd h.symm hpath, fun _ _ => id⟩
  | timeouts =>
    intro t k v hfits
    simp only [Section.set, Timeouts.set]
    split
    · obtain ⟨t', rfl⟩ := hfits .seconds rfl
      refine ⟨{ t with requestSecs := t'.requestSecs }, ?_,
        fun | .seconds => ⟨fun _ => rfl, fun hne => absurd rfl hne⟩⟩
      rw [readSeconds, if_pos (Int.natCast_nonneg _), Int.toNat_natCast, UInt64.ofNat_toNat]
      rfl
    next hk => exact ⟨t, rfl, fun | .seconds => ⟨fun h => absurd h.symm hk, fun _ _ => id⟩⟩
  | observability =>
    intro o k v hfits
    simp only [Section.set, Observability.set]
    split
    · obtain ⟨o', rfl⟩ := hfits .level rfl
      exact ⟨{ o with logLevel := o'.logLevel }, rfl,
        fun | .level => ⟨fun _ => rfl, fun hne => absurd rfl hne⟩⟩
    next hk => exact ⟨o, rfl, fun | .level => ⟨fun h => absurd h.symm hk, fun _ _ => id⟩⟩

structure Fits (fs : Fields) : Prop where
  sections : ∀ (c : Section) v, fs.lookup c.name = some v → ∃ origin sub, v = .table origin sub
  keys : ∀ {c : Section} (k : Key c) v, k.found fs = some v → ∃ p, k.Shows p v

def Section.Fits (c : Section) (v : Value) : Prop :=
  ∃ origin sub, v = .table origin sub ∧ (sub.map Prod.fst).Nodup ∧
    ∀ (k : Key c) w, sub.lookup k.name = some w → ∃ p, k.Shows p w

theorem enters : Enters Settings.set Section.name Section.Fits
    (fun c o s => ∀ k : Key c, k.Entered (k.within o) (c.of s)) := by
  intro s name v hfits
  by_cases hname : ∃ c : Section, c.name = name
  · obtain ⟨c, rfl⟩ := hname
    obtain ⟨origin, sub, rfl, hnodup, hkeys⟩ := hfits c rfl
    have hdefault : ∀ k : Key c, k.Entered none (c.of {}) := by
      intro k
      cases k <;> rfl
    obtain ⟨p, hread, hp⟩ := c.enters.foldlM hdefault hnodup hkeys
    refine ⟨c.put s p, by rw [set_section, hread]; rfl, fun c' => ⟨fun hc => ?_, fun hc o ho => ?_⟩⟩
    · obtain rfl := Section.name_injective hc
      rw [Section.of_put]
      exact hp
    · change ∀ k : Key c', k.Entered (k.within o) (Section.of (c.put s p) c')
      rw [Section.of_put_of_ne s (fun h => hc (congrArg Section.name h))]
      exact ho
  · have hunknown : ∀ c : Section, c.name ≠ name := fun c hc => hname ⟨c, hc⟩
    exact ⟨s, set_unknown s hunknown v, fun c => ⟨fun hc => absurd hc (hunknown c), fun _ _ => id⟩⟩

theorem read_of_fits {fs : Fields} (hdistinct : Toml.Fields.Distinct fs) (hfits : Fits fs) :
    ∃ s, ofFields fs = .ok s ∧ ∀ (c : Section) (k : Key c), k.Entered (k.found fs) (c.of s) := by
  refine enters.foldlM (fun c k => ?_) hdistinct.nodup (fun c v hv => ?_)
  · cases k <;> rfl
  · obtain ⟨origin, sub, rfl⟩ := hfits.sections c v hv
    have hsub := Toml.Fields.Distinct.of_table (hdistinct.lookup hv)
    refine ⟨origin, sub, rfl, hsub.nodup, fun k w hw => hfits.keys k w ?_⟩
    rw [Key.found, hv]
    exact hw

theorem Destination.Written.unique {d d' : Destination} {v : Value} (h : d.Written v)
    (h' : d'.Written v) : d = d' := by
  have hread := h.read.symm.trans h'.read
  exact Except.ok.inj hread

theorem Key.alike_of_entered {c : Section} {k : Key c} {found : Option Value} {p p' : c.Part}
    (h : k.Entered found p) (h' : k.Entered found p') : k.Alike p p' := by
  cases found with
  | none => cases k <;> exact Eq.trans h (Eq.symm h')
  | some v =>
    cases k with
    | address => exact Value.text.inj (Eq.trans (Eq.symm h) h')
    | destination => exact Destination.Written.unique h h'
    | path =>
      obtain ⟨q, hq, hv⟩ := h
      obtain ⟨q', hq', hv'⟩ := h'
      rw [Key.Alike, hq, hq', Value.text.inj (hv.symm.trans hv')]
    | seconds =>
      have hsame := Int.ofNat_inj.1 (Value.integer.inj (Eq.trans (Eq.symm h) h'))
      exact UInt64.toNat_inj.1 hsame
    | level => exact Value.text.inj (Eq.trans (Eq.symm h) h')

theorem eq_of_alike {s s' : Settings}
    (h : ∀ (c : Section) (k : Key c), k.Alike (c.of s) (c.of s')) : s = s' := by
  rcases s with ⟨⟨address⟩, ⟨destination, path⟩, ⟨seconds⟩, ⟨level⟩⟩
  rcases s' with ⟨⟨address'⟩, ⟨destination', path'⟩, ⟨seconds'⟩, ⟨level'⟩⟩
  obtain rfl : address = address' := h .listener .address
  obtain rfl : destination = destination' := h .accessLog .destination
  obtain rfl : path = path' := h .accessLog .path
  obtain rfl : seconds = seconds' := h .timeouts .seconds
  obtain rfl : level = level' := h .observability .level
  rfl

/-- Tables that differ in the order of their keys, in keys that are idle, and within some values. -/
inductive Relaid (Idle : String → Value → Prop) (Within : String → Value → Value → Prop) :
    Fields → Fields → Prop
  | order {fs fs'} : (fs.map Prod.fst).Nodup → fs.Perm fs' → Relaid Idle Within fs fs'
  | idle {fs k v} : Idle k v → k ∉ fs.map Prod.fst → Relaid Idle Within fs ((k, v) :: fs)
  | within {fs k v v'} : Within k v v' → Relaid Idle Within ((k, v) :: fs) ((k, v') :: fs)
  | symm {fs fs'} : Relaid Idle Within fs fs' → Relaid Idle Within fs' fs
  | trans {fs fs' fs''} : Relaid Idle Within fs fs' → Relaid Idle Within fs' fs'' →
      Relaid Idle Within fs fs''

theorem lookup_of_perm {fs fs' : Fields} (hnodup : (fs.map Prod.fst).Nodup) (h : fs.Perm fs')
    (k : String) :
    fs.lookup k = fs'.lookup k := by
  induction h with
  | nil => rfl
  | cons f _ ih =>
    rw [List.map_cons, List.nodup_cons] at hnodup
    rw [List.lookup_cons, List.lookup_cons, ih hnodup.2]
  | swap f g fs =>
    have hne : g.1 ≠ f.1 := fun h => (List.nodup_cons.1 hnodup).1 (h ▸ List.mem_cons_self)
    by_cases hk : k = g.1
    · have hf : k ≠ f.1 := fun h => hne (hk.symm.trans h)
      rw [Toml.Fields.lookup_cons_of_ne hf, hk, List.lookup_cons_self, List.lookup_cons_self]
    · rw [Toml.Fields.lookup_cons_of_ne hk, List.lookup_cons, List.lookup_cons,
        Toml.Fields.lookup_cons_of_ne hk]
  | trans h _ ih ih' => exact (ih hnodup).trans (ih' ((h.map Prod.fst).nodup_iff.1 hnodup))

theorem Relaid.view {β : Type} {Idle : String → Value → Prop}
    {Within : String → Value → Value → Prop} (look : Option Value → β) {n : String}
    (hidle : ∀ v, Idle n v → look (some v) = look none)
    (hwithin : ∀ v v', Within n v v' → look (some v) = look (some v')) {fs fs' : Fields}
    (h : Relaid Idle Within fs fs') : look (fs.lookup n) = look (fs'.lookup n) := by
  induction h with
  | order hnodup hperm => rw [lookup_of_perm hnodup hperm]
  | @idle fs k v hv hfresh =>
    by_cases hk : n = k
    · subst hk
      rw [Toml.Fields.lookup_eq_none_iff.2 hfresh, List.lookup_cons_self, hidle v hv]
    · rw [Toml.Fields.lookup_cons_of_ne hk]
  | @within fs k v v' hv =>
    by_cases hk : n = k
    · subst hk
      rw [List.lookup_cons_self, List.lookup_cons_self, hwithin v v' hv]
    · rw [Toml.Fields.lookup_cons_of_ne hk, Toml.Fields.lookup_cons_of_ne hk]
  | symm _ ih => exact ih.symm
  | trans _ _ ih ih' => exact ih.trans ih'

def Section.Relaid (c : Section) : Fields → Fields → Prop :=
  Settings.Relaid (fun k _ => ∀ f : Key c, f.name ≠ k) fun _ _ _ => False

/-- A document that is laid out otherwise: its sections and keys in another order, others that mean
nothing anywhere, and sections that come or go with them. -/
def DocumentRelaid : Fields → Fields → Prop :=
  Relaid (fun k v => (∀ c : Section, c.name ≠ k) ∨ ∃ origin, v = .table origin []) fun k v v' =>
    ∃ (c : Section) (origin origin' : Toml.Origin) (fs fs' : Fields),
      k = c.name ∧ v = .table origin fs ∧ v' = .table origin' fs' ∧ c.Relaid fs fs'

theorem found_of_relaid {fs fs' : Fields} (h : DocumentRelaid fs fs') {c : Section} (k : Key c) :
    k.found fs = k.found fs' := by
  refine Relaid.view k.within (fun v hv => ?_) (fun v v' hv => ?_) h
  · obtain hunknown | ⟨origin, rfl⟩ := hv
    · exact absurd rfl (hunknown c)
    · rfl
  · obtain ⟨c', origin, origin', sub, sub', hc, rfl, rfl, hrelaid⟩ := hv
    obtain rfl := Section.name_injective hc
    refine Relaid.view id (fun w hw => absurd rfl (hw k)) (fun _ _ => False.elim) hrelaid

theorem Fits.relaid {fs fs' : Fields} (h : Fits fs) (hrelaid : DocumentRelaid fs fs') :
    Fits fs' where
  sections c := by
    let look (o : Option Value) : Prop := ∀ v, o = some v → ∃ origin sub, v = .table origin sub
    have htable : ∀ origin sub, look (some (.table origin sub)) := by
      rintro origin sub _ ⟨⟩
      exact ⟨origin, sub, rfl⟩
    have hlook : look (fs.lookup c.name) = look (fs'.lookup c.name) := by
      refine Relaid.view look (fun v hv => propext ?_) (fun v v' hv => propext ?_) hrelaid
      · obtain hunknown | ⟨origin, rfl⟩ := hv
        · exact absurd rfl (hunknown c)
        · exact iff_of_true (htable origin []) nofun
      · obtain ⟨_, origin, origin', sub, sub', -, rfl, rfl, -⟩ := hv
        exact iff_of_true (htable origin sub) (htable origin' sub')
    exact hlook.mp (h.sections c)
  keys k v hv := h.keys k v ((found_of_relaid hrelaid k).trans hv)

def Document (bs : Bytes) (fs : Fields) : Prop :=
  ∃ cs, Utf8.text? bs = some cs ∧ Toml.parse? cs = some fs

theorem Document.distinct {bs : Bytes} {fs : Fields} (h : Document bs fs) :
    Toml.Fields.Distinct fs := by
  obtain ⟨cs, -, hparse⟩ := h
  exact Toml.distinct_of_parse hparse

theorem Document.ofBytes_eq {bs bs' : Bytes} {fs fs' : Fields} {s : Settings} (h : Document bs fs)
    (h' : Document bs' fs') (hread : ofFields fs = .ok s) (hread' : ofFields fs' = .ok s) :
    ofBytes bs = ofBytes bs' := by
  obtain ⟨cs, htext, hparse⟩ := h
  obtain ⟨cs', htext', hparse'⟩ := h'
  simp only [ofBytes, htext, hparse, hread, htext', hparse', hread']

/-- A document whose known sections are tables, and have values of the right types for known keys,
can be read, and each setting is what the document has for its key, or the default. To lay the
document out otherwise changes neither the settings nor their flaws, and to change what it has for
some keys leaves the settings of the others. -/
theorem independent_of_layout :
    (∀ bs fs, Document bs fs → Fits fs →
      ∃ s, ofFields fs = .ok s ∧ ∀ (c : Section) (k : Key c), k.Entered (k.found fs) (c.of s)) ∧
    (∀ bs bs' fs fs', Document bs fs → Document bs' fs' → Fits fs → DocumentRelaid fs fs' →
      (∃ s, ofFields fs = .ok s ∧ ofFields fs' = .ok s) ∧ ofBytes bs = ofBytes bs') ∧
    ∀ bs bs' fs fs', Document bs fs → Document bs' fs' → Fits fs → Fits fs' →
      ∃ s s', ofFields fs = .ok s ∧ ofFields fs' = .ok s' ∧
        ∀ (c : Section) (k : Key c), k.found fs = k.found fs' → k.Alike (c.of s) (c.of s') := by
  refine ⟨fun bs fs h hfits => read_of_fits h.distinct hfits,
    fun bs bs' fs fs' h h' hfits hrelaid => ?_, fun bs bs' fs fs' h h' hfits hfits' => ?_⟩
  · obtain ⟨s, hread, hs⟩ := read_of_fits h.distinct hfits
    obtain ⟨s', hread', hs'⟩ := read_of_fits h'.distinct (hfits.relaid hrelaid)
    obtain rfl : s = s' := eq_of_alike fun c k => by
      have hk := hs c k
      rw [found_of_relaid hrelaid k] at hk
      exact Key.alike_of_entered hk (hs' c k)
    exact ⟨⟨s, hread, hread'⟩, h.ofBytes_eq h' hread hread'⟩
  · obtain ⟨s, hread, hs⟩ := read_of_fits h.distinct hfits
    obtain ⟨s', hread', hs'⟩ := read_of_fits h'.distinct hfits'
    refine ⟨s, s', hread, hread', fun c k hfound => ?_⟩
    have hk := hs c k
    rw [hfound] at hk
    exact Key.alike_of_entered hk (hs' c k)

theorem independent_of_layout_of_two :
    let cs :=
      "[access_log]\npath = 'a'\ndestination = 'file'\n[timeouts]\nrequest_secs = 0\n".toList
    let cs' := ("extra = true\ntimeouts = \x7bmode = 1, request_secs = 0\x7d\n" ++
      "[access_log]\ndestination = 'file'\npath = 'a'").toList
    let s : Settings := { accessLog := ⟨.file, some "a"⟩, timeouts := ⟨0⟩ }
    ∃ fs fs', Document (Utf8.encode cs) fs ∧ Document (Utf8.encode cs') fs' ∧ Fits fs ∧
      DocumentRelaid fs fs' ∧ ofFields fs = .ok s ∧ ofFields fs' = .ok s ∧
      ofBytes (Utf8.encode cs) = ofBytes (Utf8.encode cs') ∧ s.flaws = [.zeroTimeout] := by
  intro cs cs' s
  let path : String × Value := ("path", .text "a")
  let destination : String × Value := ("destination", .text "file")
  let seconds : String × Value := ("request_secs", .integer 0)
  let mode : String × Value := ("mode", .integer 1)
  let fs : Fields :=
    [("access_log", .table .header [path, destination]), ("timeouts", .table .header [seconds])]
  let fs' : Fields :=
    [("extra", .boolean true), ("timeouts", .table .inline [mode, seconds]),
      ("access_log", .table .header [destination, path])]
  have hdocument : Document (Utf8.encode cs) fs := ⟨cs, by decide +kernel, rfl⟩
  have hdocument' : Document (Utf8.encode cs') fs' := ⟨cs', by decide +kernel, rfl⟩
  have hfits : Fits fs := by
    constructor
    · intro c v hv
      cases c <;> cases hv <;> exact ⟨_, _, rfl⟩
    · intro c k v hv
      cases k with
      | address | level => cases hv
      | destination =>
        cases hv
        exact ⟨⟨.file, none⟩, .name⟩
      | path =>
        cases hv
        exact ⟨⟨.stdout, some "a"⟩, "a", rfl, rfl⟩
      | seconds =>
        cases hv
        exact ⟨⟨0⟩, rfl⟩
  have hrelaid : DocumentRelaid fs fs' := by
    have hlog : Section.accessLog.Relaid [path, destination] [destination, path] :=
      .order (by decide) (.swap _ _ _)
    have hmode : Section.timeouts.Relaid [seconds] [mode, seconds] :=
      .idle (by rintro (_ | _); decide) (by decide)
    refine .trans (.within ⟨.accessLog, .header, .header, _, _, rfl, rfl, rfl, hlog⟩) ?_
    refine .trans (.order (by decide) (.swap _ _ _)) ?_
    refine .trans (.within ⟨.timeouts, .header, .inline, _, _, rfl, rfl, rfl, hmode⟩) ?_
    exact .idle (.inl (by rintro (_ | _ | _ | _) <;> decide)) (by decide)
  have hread : ofFields fs = .ok s := rfl
  obtain ⟨⟨s', hs, hs'⟩, hbytes⟩ :=
    independent_of_layout.2.1 _ _ fs fs' hdocument hdocument' hfits hrelaid
  obtain rfl : s = s' := Except.ok.inj (hread.symm.trans hs)
  exact ⟨fs, fs', hdocument, hdocument', hfits, hrelaid, hread, hs', hbytes, by decide +kernel⟩

end AccessTrail.Settings
