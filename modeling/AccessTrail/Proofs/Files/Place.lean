import AccessTrail.Proofs.Files
import Mathlib.Tactic

namespace AccessTrail.Files

def place? (fs : Files) (path : List Char) : Option Place :=
  match fs.locate path with
  | .ok (.name parent name false) => if isTooLong name then none else some (parent ++ [name])
  | _ => none

def file? (fs : Files) (path : List Char) : Option Nat :=
  match (fs.place? path).bind fs.node? with
  | some (.file n) => some n
  | _ => none

def held (fs : Files) (n : Nat) : Bytes := (fs.contents[n]?).getD []

variable {fs fs' : Files} {path : List Char} {p q : Place} {n : Nat}

structure SameWays (fs fs' : Files) : Prop where
  base : fs.base = fs'.base
  directory : ∀ p, fs.node? p = some .directory ↔ fs'.node? p = some .directory

namespace SameWays

theorem refl (fs : Files) : SameWays fs fs := ⟨rfl, fun _ => Iff.rfl⟩

theorem symm (h : SameWays fs fs') : SameWays fs' fs := ⟨h.base.symm, fun p => (h.directory p).symm⟩

theorem trans {fs'' : Files} (h : SameWays fs fs') (h' : SameWays fs' fs'') : SameWays fs fs'' :=
  ⟨h.base.trans h'.base, fun p => (h.directory p).trans (h'.directory p)⟩

theorem enter (h : SameWays fs fs') {here there : Place} {name : List Char}
    (hok : fs.enter here name = .ok there) :
    fs'.enter here name = .ok there := by
  unfold Files.enter at hok ⊢
  split_ifs at hok ⊢
  · exact hok
  · exact hok
  · split at hok
    · cases hok
    · cases hok
    next hnode => rwa [(h.directory _).1 hnode]

theorem enterAll (h : SameWays fs fs') {names : List (List Char)} {here there : Place}
    (hok : names.foldlM fs.enter here = .ok there) : names.foldlM fs'.enter here = .ok there := by
  induction names generalizing here with
  | nil => exact hok
  | cons name names ih =>
    rw [List.foldlM_cons] at hok ⊢
    obtain ⟨next, hname, hrest⟩ := bind_eq_ok hok
    rw [h.enter hname]
    exact ih hrest

theorem locate (h : SameWays fs fs') {spot : Spot} (hok : fs.locate path = .ok spot) :
    fs'.locate path = .ok spot := by
  unfold Files.locate at hok ⊢
  rw [← h.base]
  dsimp only at hok ⊢
  generalize (if path.head? = some '/' then [] else fs.base) = start at hok ⊢
  split_ifs at hok ⊢
  cases hlast : ((splitPath path).filter (!·.isEmpty)).getLast? with
  | none =>
    rw [hlast] at hok
    exact hok
  | some last =>
    rw [hlast] at hok
    obtain ⟨parent, hparent, hspot⟩ := bind_eq_ok hok
    dsimp only
    rw [h.enterAll hparent]
    exact hspot

theorem place?_eq (h : SameWays fs fs') (path : List Char) : fs.place? path = fs'.place? path := by
  unfold Files.place?
  cases hspot : fs.locate path with
  | ok spot => rw [h.locate hspot]
  | error =>
    cases hspot' : fs'.locate path with
    | ok spot => cases hspot.symm.trans (h.symm.locate hspot')
    | error => rfl

end SameWays

theorem place?_eq_some_iff : fs.place? path = some p ↔
    ∃ parent name, fs.locate path = .ok (.name parent name false) ∧ isTooLong name = false ∧
      p = parent ++ [name] := by
  unfold place?
  constructor
  · intro h
    split at h
    next parent name hspot =>
      split_ifs at h with hlong
      exact ⟨parent, name, hspot, Bool.eq_false_iff.2 hlong, (Option.some.inj h).symm⟩
    next => cases h
  · rintro ⟨parent, name, hspot, hlong, rfl⟩
    rw [hspot]
    dsimp only
    rw [if_neg (Bool.eq_false_iff.1 hlong)]

theorem file?_eq_some_iff :
    fs.file? path = some n ↔ ∃ p, fs.place? path = some p ∧ fs.node? p = some (.file n) := by
  unfold file?
  cases fs.place? path with
  | none => simp
  | some p =>
    cases hnode : fs.node? p with
    | none => simp [hnode]
    | some node => cases node <;> simp [hnode]

theorem entry?_eq_ok_iff {parent : Place} {name : List Char} {entry : Option Node} :
    fs.entry? parent name = .ok entry ↔
      isTooLong name = false ∧ fs.node? (parent ++ [name]) = entry := by
  unfold entry?
  split_ifs with hlong <;> simp [hlong]

theorem read_eq_ok_iff {bs : Bytes} :
    fs.read path = .ok bs ↔ ∃ n, fs.file? path = some n ∧ fs.held n = bs := by
  constructor
  · intro h
    unfold read at h
    obtain ⟨spot, hspot, h⟩ := bind_eq_ok h
    cases spot with
    | dots => cases h
    | name parent name slash =>
      obtain ⟨entry, hentry, h⟩ := bind_eq_ok h
      obtain ⟨hlong, rfl⟩ := entry?_eq_ok_iff.1 hentry
      cases hnode : fs.node? (parent ++ [name]) with
      | none => rw [hnode] at h; cases h
      | some node =>
        rw [hnode] at h
        cases node with
        | directory => cases h
        | file n =>
          cases slash with
          | true => cases h
          | false =>
            cases h
            exact ⟨n, file?_eq_some_iff.2 ⟨_,
              place?_eq_some_iff.2 ⟨parent, name, hspot, hlong, rfl⟩, hnode⟩, rfl⟩
  · rintro ⟨n, hfile, rfl⟩
    obtain ⟨_, hplace, hnode⟩ := file?_eq_some_iff.1 hfile
    obtain ⟨parent, name, hspot, hlong, rfl⟩ := place?_eq_some_iff.1 hplace
    have hentry : fs.entry? parent name = .ok (some (.file n)) := entry?_eq_ok_iff.2 ⟨hlong, hnode⟩
    unfold read
    rw [hspot]
    show (fs.entry? parent name >>= _) = _
    rw [hentry]
    rfl

/-- What comes of opening a path: the file that is there, or a new one. -/
inductive Opened (fs : Files) (path : List Char) : Nat → Files → Prop
  | present {n : Nat} : fs.file? path = some n → Opened fs path n fs
  | made {p : Place} : fs.place? path = some p → fs.node? p = none →
    Opened fs path fs.contents.length (fs.create p []).2

theorem opened_of_openFile (h : fs.openFile path = .ok (n, fs')) : Opened fs path n fs' := by
  unfold openFile at h
  obtain ⟨spot, hspot, h⟩ := bind_eq_ok h
  cases spot with
  | dots => cases h
  | name parent name slash =>
    cases slash with
    | true => cases h
    | false =>
      obtain ⟨entry, hentry, h⟩ := bind_eq_ok h
      obtain ⟨hlong, rfl⟩ := entry?_eq_ok_iff.1 hentry
      have hplace : fs.place? path = some (parent ++ [name]) :=
        place?_eq_some_iff.2 ⟨parent, name, hspot, hlong, rfl⟩
      cases hnode : fs.node? (parent ++ [name]) with
      | none =>
        rw [hnode] at h
        cases h
        exact .made hplace hnode
      | some node =>
        rw [hnode] at h
        cases node with
        | directory => cases h
        | file n =>
          cases h
          exact .present (file?_eq_some_iff.2 ⟨_, hplace, hnode⟩)

theorem node?_create (h : fs.node? p = none) (bs : Bytes) (q : Place) :
    (fs.create p bs).2.node? q = if q = p then some (.file fs.contents.length) else fs.node? q := by
  cases q with
  | nil =>
    have hp : ([] : Place) ≠ p := by
      rintro rfl
      cases h
    rw [if_neg hp]
    rfl
  | cons name q =>
    have hnode : (fs.create p bs).2.node? (name :: q) =
        (fs.node? (name :: q)).or ([(p, Node.file fs.contents.length)].lookup (name :: q)) :=
          List.lookup_append
    rw [hnode]
    split_ifs with hp
    · rw [hp, h, Option.none_or, List.lookup_cons_self]
    · rw [List.lookup_cons, beq_false_of_ne hp]
      exact Option.or_none

theorem sameWays_create (h : fs.node? p = none) (bs : Bytes) : SameWays fs (fs.create p bs).2 := by
  refine ⟨rfl, fun q => ?_⟩
  rw [node?_create h]
  split_ifs with hq
  · rw [hq, h]
    simp
  · exact Iff.rfl

theorem file?_create (h : fs.node? p = none) (bs : Bytes) (path : List Char) :
    (fs.create p bs).2.file? path =
      if fs.place? path = some p then some fs.contents.length else fs.file? path := by
  unfold file?
  rw [← (sameWays_create h bs).place?_eq]
  cases fs.place? path with
  | none => rfl
  | some q =>
    simp only [Option.bind_some, node?_create h, Option.some_inj]
    split_ifs <;> rfl

theorem held_of_length_le (h : fs.contents.length ≤ n) : fs.held n = [] := by
  rw [held, List.getElem?_eq_none h]
  rfl

theorem held_create (fs : Files) (p : Place) (n : Nat) : (fs.create p []).2.held n = fs.held n := by
  show ((fs.contents ++ [[]])[n]?).getD [] = (fs.contents[n]?).getD []
  rw [List.getElem?_append]
  split_ifs with hn
  · rfl
  · rw [List.getElem?_eq_none (not_lt.1 hn)]
    cases n - fs.contents.length <;> rfl

theorem held_append {m : Nat} (hm : m < fs.contents.length) (bs : Bytes) (n : Nat) :
    (fs.append m bs).held n = fs.held n ++ if m = n then bs else [] := by
  show ((fs.contents.modify m (· ++ bs))[n]?).getD [] = _
  rw [List.getElem?_modify, held]
  split_ifs with hn
  · subst hn
    rw [List.getElem?_eq_getElem hm]
    rfl
  · rw [List.append_nil, Option.map_eq_map, Option.map_id']

/-- Every name of a file is that of one that is there. -/
def Sound (fs : Files) : Prop := ∀ p n, (p, Node.file n) ∈ fs.entries → n < fs.contents.length

namespace Sound

theorem lt_of_file? (h : fs.Sound) (hfile : fs.file? path = some n) : n < fs.contents.length := by
  obtain ⟨p, -, hnode⟩ := file?_eq_some_iff.1 hfile
  cases p with
  | nil => cases hnode
  | cons name p =>
    obtain ⟨before, after, hentries, -⟩ := List.lookup_eq_some_iff.1 hnode
    exact h (name :: p) n (by rw [hentries]; simp)

theorem create (h : fs.Sound) (p : Place) (bs : Bytes) : (fs.create p bs).2.Sound := by
  intro q n hmem
  have hlength : (fs.create p bs).2.contents.length = fs.contents.length + 1 := List.length_append
  rw [hlength]
  rcases List.mem_append.1 hmem with hold | hnew
  · exact (h q n hold).trans (Nat.lt_succ_self _)
  · cases List.mem_singleton.1 hnew
    exact Nat.lt_succ_self _

theorem append (h : fs.Sound) (m : Nat) (bs : Bytes) : (fs.append m bs).Sound := by
  intro q n hmem
  have hlength : (fs.append m bs).contents.length = fs.contents.length := List.length_modify ..
  rw [hlength]
  exact h q n hmem

end Sound

namespace Opened

theorem sound (h : fs.Opened path n fs') (hsound : fs.Sound) : fs'.Sound := by
  cases h with
  | present => exact hsound
  | made => exact hsound.create _ _

theorem sameWays (h : fs.Opened path n fs') : SameWays fs fs' := by
  cases h with
  | present => exact .refl fs
  | made _ hnode => exact sameWays_create hnode _

theorem held_eq (h : fs.Opened path n fs') (m : Nat) : fs'.held m = fs.held m := by
  cases h with
  | present => rfl
  | made => exact held_create fs _ m

theorem length_le (h : fs.Opened path n fs') : fs.contents.length ≤ fs'.contents.length := by
  cases h with
  | present => exact le_rfl
  | made =>
    rw [create, List.length_append]
    exact Nat.le_add_right _ _

theorem file?_eq (h : fs.Opened path n fs') : fs'.file? path = some n := by
  cases h with
  | present hfile => exact hfile
  | made hplace hnode => rw [file?_create hnode, if_pos hplace]

theorem stays (h : fs.Opened path n fs') {other : List Char} {m : Nat}
    (hfile : fs.file? other = some m) :
    fs'.file? other = some m := by
  cases h with
  | present => exact hfile
  | made hplace hnode =>
    obtain ⟨q, hq, hthere⟩ := file?_eq_some_iff.1 hfile
    rw [file?_create hnode, if_neg, hfile]
    rintro hp
    rw [Option.some_inj.1 (hq.symm.trans hp), hnode] at hthere
    cases hthere

theorem made_or_there (h : fs.Opened path n fs') {other : List Char} {m : Nat}
    (hfile : fs'.file? other = some m) :
    fs.file? other = some m ∨ fs.contents.length ≤ m ∧ n = m := by
  cases h with
  | present => exact .inl hfile
  | made hplace hnode =>
    rw [file?_create hnode] at hfile
    split_ifs at hfile
    · cases hfile
      exact .inr ⟨le_rfl, rfl⟩
    · exact .inl hfile

theorem read_stays (h : fs.Opened path n fs') {other : List Char} {bs : Bytes}
    (hread : fs.read other = .ok bs) :
    fs'.read other = .ok bs := by
  obtain ⟨m, hfile, rfl⟩ := read_eq_ok_iff.1 hread
  exact read_eq_ok_iff.2 ⟨m, h.stays hfile, h.held_eq m⟩

theorem read_new (h : fs.Opened path n fs') (hmissing : ∀ bs, fs.read path ≠ .ok bs) :
    fs'.read path = .ok [] := by
  refine read_eq_ok_iff.2 ⟨n, h.file?_eq, ?_⟩
  rw [h.held_eq]
  cases h with
  | present hfile => exact absurd (read_eq_ok_iff.2 ⟨n, hfile, rfl⟩) (hmissing _)
  | made => exact held_of_length_le le_rfl

end Opened

theorem eq_or_move_of_rename {goal : List Char} (h : fs.rename path goal = .ok fs') :
    fs' = fs ∨ ∃ source target, fs' = fs.move source target := by
  obtain ⟨spot, -, h⟩ := bind_eq_ok h
  obtain ⟨spot', -, h⟩ := bind_eq_ok h
  split at h
  next parent name slash parent' name' slash' =>
    obtain ⟨entry, -, h⟩ := bind_eq_ok h
    cases entry with
    | none => cases h
    | some node =>
      obtain ⟨there, -, h⟩ := bind_eq_ok h
      dsimp only at h
      split at h
      · cases h
      split at h
      · cases h
      split at h
      · cases h
      split at h
      · cases h
        exact .inl rfl
      · obtain ⟨_, -, hmoved⟩ := bind_eq_ok h
        cases hmoved
        exact .inr ⟨_, _, rfl⟩
  next => cases h

inductive Change (fs : Files) : Files → Prop
  | opened {path : List Char} {n : Nat} {fs' : Files} : fs.openFile path = .ok (n, fs') →
      Change fs fs'
  | appended (n : Nat) (bs : Bytes) : Change fs (fs.append n bs)
  | written {path : List Char} {bs : Bytes} {fs' : Files} : fs.write path bs = .ok fs' →
      Change fs fs'
  | directoryMade {path : List Char} {fs' : Files} : fs.makeDirectory path = .ok fs' → Change fs fs'
  | removed {path : List Char} {fs' : Files} : fs.remove path = .ok fs' → Change fs fs'
  | renamed {path goal : List Char} {fs' : Files} : fs.rename path goal = .ok fs' → Change fs fs'

namespace Sound

theorem empty (base : Place) : Sound { base } := nofun

theorem of_names (h : fs.Sound) (hlength : fs.contents.length ≤ fs'.contents.length)
    (hnames : ∀ p n, (p, Node.file n) ∈ fs'.entries → ∃ q, (q, Node.file n) ∈ fs.entries) :
    fs'.Sound := by
  intro p n hmem
  obtain ⟨q, hq⟩ := hnames p n hmem
  exact (h q n hq).trans_le hlength

theorem move (h : fs.Sound) (source target : Place) : (fs.move source target).Sound := by
  refine h.of_names le_rfl fun p n hmem => ?_
  obtain ⟨⟨q, node⟩, hkept, heq⟩ := List.mem_map.1 hmem
  have hnode : node = .file n := by
    dsimp only at heq
    split_ifs at heq <;> exact congrArg Prod.snd heq
  exact ⟨q, hnode ▸ List.mem_of_mem_filter hkept⟩

/-- From a tree without files, nothing leads to names of files that are not there. -/
theorem change (h : fs.Sound) (hchange : Change fs fs') : fs'.Sound := by
  cases hchange with
  | opened hopen => exact (opened_of_openFile hopen).sound h
  | appended n bs => exact h.append n bs
  | written hwrite =>
    obtain ⟨⟨n, files⟩, hopen, hset⟩ := bind_eq_ok hwrite
    cases hset
    refine ((opened_of_openFile hopen).sound h).of_names ?_ fun p m hmem => ⟨p, hmem⟩
    rw [List.length_set]
  | directoryMade hmake =>
    obtain ⟨spot, -, hmake⟩ := bind_eq_ok hmake
    split at hmake
    · cases hmake
    · obtain ⟨entry, -, hmake⟩ := bind_eq_ok hmake
      split at hmake <;> cases hmake
      refine h.of_names le_rfl fun p m hmem => ⟨p, ?_⟩
      simpa using hmem
  | removed hremove =>
    obtain ⟨spot, -, hremove⟩ := bind_eq_ok hremove
    split at hremove
    · cases hremove
    · obtain ⟨entry, -, hremove⟩ := bind_eq_ok hremove
      split at hremove
      · cases hremove
      · cases hremove
      · split_ifs at hremove
        cases hremove
        exact h.of_names le_rfl fun p m hmem => ⟨p, List.mem_of_mem_filter hmem⟩
  | renamed hrename =>
    obtain rfl | ⟨source, target, rfl⟩ := eq_or_move_of_rename hrename
    · exact h
    · exact h.move source target

end Sound

end AccessTrail.Files
