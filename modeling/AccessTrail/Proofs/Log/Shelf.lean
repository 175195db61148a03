import AccessTrail.Log.Target
import AccessTrail.Proofs.Files.Place

/-!
Logs that share their files. However logs are opened and records appended, a file holds what it held
at first and then the records of all logs that were opened on it, in the order of the appends; and
no other file changes.
-/

namespace AccessTrail

theorem LogTarget.append_of_console {t : LogTarget} (h : ∀ n, t ≠ .file n) (record : Bytes)
    (fs : Files) :
    t.append record fs = fs := by
  cases t with
  | stdout | stderr => rfl
  | file n => exact absurd rfl (h n)

structure OpenLog where
  settings : Settings.AccessLog
  target : LogTarget

namespace OpenLog

def path? (l : OpenLog) : Option (List Char) :=
  match l.settings.destination with
  | .file => l.settings.path.map (·.toList)
  | .stdout | .stderr => none

/-- The log was opened on a path that leads to the same file as this one. -/
def isOn (fs : Files) (path : List Char) (l : OpenLog) : Bool :=
  match l.path?.bind fs.file? with
  | some n => fs.file? path == some n
  | none => false

theorem file?_of_isOn {fs : Files} {path : List Char} {l : OpenLog} (h : l.isOn fs path = true) :
    ∃ n, fs.file? path = some n := by
  unfold isOn at h
  split at h
  next n _ => exact ⟨n, beq_iff_eq.1 h⟩
  next => cases h

end OpenLog

structure Shelf where
  files : Files
  logs : List OpenLog := []

namespace Shelf

inductive Act
  | openLog : Settings.AccessLog → Act
  | append : (log : Nat) → (record : Bytes) → Act

def act (s : Shelf) : Act → Shelf
  | .openLog a =>
    match LogTarget.openFor a s.files with
    | .ok (target, files) => { files, logs := s.logs ++ [⟨a, target⟩] }
    | .error _ => s
  | .append i record =>
    match s.logs[i]? with
    | some l => { s with files := l.target.append record s.files }
    | none => s

def run (s : Shelf) (as : List Act) : Shelf := as.foldl act s

def written (s : Shelf) : Act → List (OpenLog × Bytes)
  | .openLog _ => []
  | .append i record => (s.logs[i]?).toList.map (·, record)

def writes : Shelf → List Act → List (OpenLog × Bytes)
  | _, [] => []
  | s, a :: as => s.written a ++ writes (s.act a) as

def recordsOn (fs : Files) (path : List Char) (ws : List (OpenLog × Bytes)) : Bytes :=
  (ws.filter (·.1.isOn fs path)).flatMap (·.2)

def recordsTo (n : Nat) (ws : List (OpenLog × Bytes)) : Bytes :=
  (ws.filter (·.1.target = .file n)).flatMap (·.2)

theorem recordsTo_concat (n : Nat) (ws : List (OpenLog × Bytes)) (l : OpenLog) (record : Bytes) :
    recordsTo n (ws ++ [(l, record)]) =
      recordsTo n ws ++ if l.target = .file n then record else [] := by
  rw [recordsTo, List.filter_append, List.flatMap_append, ← recordsTo, List.filter_singleton]
  by_cases h : l.target = .file n <;> simp [h]

theorem run_concat (s : Shelf) (as : List Act) (a : Act) : s.run (as ++ [a]) = (s.run as).act a :=
  List.foldl_append

theorem writes_concat (s : Shelf) (as : List Act) (a : Act) :
    s.writes (as ++ [a]) = s.writes as ++ (s.run as).written a := by
  induction as generalizing s with
  | nil => simp [writes, run]
  | cons b as ih =>
    rw [List.cons_append, writes, writes, ih, List.append_assoc]
    rfl

inductive Leads (fs : Files) (l : OpenLog) : Prop
  | console : l.path? = none → (∀ n, l.target ≠ .file n) → Leads fs l
  | file {path : List Char} {n : Nat} : l.path? = some path → l.target = .file n →
      fs.file? path = some n → Leads fs l

theorem Leads.mono {fs fs' : Files} {l : OpenLog} (h : Leads fs l)
    (hkept : ∀ path n, fs.file? path = some n → fs'.file? path = some n) : Leads fs' l := by
  cases h with
  | console hpath htarget => exact .console hpath htarget
  | file hpath htarget hfile => exact .file hpath htarget (hkept _ _ hfile)

theorem Leads.isOn {fs : Files} {l : OpenLog} (h : Leads fs l) {path : List Char} {n : Nat}
    (hfile : fs.file? path = some n) : l.isOn fs path = decide (l.target = .file n) := by
  unfold OpenLog.isOn
  cases h with
  | console hpath htarget => simp [hpath, htarget]
  | @file path' n' hpath htarget hfile' =>
    rw [hpath, htarget, Option.bind_some, hfile', hfile, Bool.eq_iff_iff]
    simp only [beq_iff_eq, Option.some_inj, decide_eq_true_eq, LogTarget.file.injEq]
    exact eq_comm

theorem Leads.isOn_of_target {fs : Files} {l : OpenLog} (h : Leads fs l) {path : List Char}
    {n : Nat} (htarget : l.target = .file n) (hfile : fs.file? path = some n) :
    l.isOn fs path = true := by
  rw [h.isOn hfile, htarget]
  exact decide_eq_true rfl

inductive Opening (a : Settings.AccessLog) (fs : Files) : LogTarget → Files → Prop
  | console {t : LogTarget} : OpenLog.path? ⟨a, t⟩ = none → (∀ n, t ≠ .file n) → Opening a fs t fs
  | file {path : List Char} {n : Nat} {fs' : Files} :
    OpenLog.path? ⟨a, .file n⟩ = some path → fs.Opened path n fs' → Opening a fs (.file n) fs'

theorem opening_of_openFor {a : Settings.AccessLog} {fs fs' : Files} {t : LogTarget}
    (h : LogTarget.openFor a fs = .ok (t, fs')) : Opening a fs t fs' := by
  obtain ⟨destination, path⟩ := a
  cases destination with
  | stdout =>
    cases h
    exact .console rfl nofun
  | stderr =>
    cases h
    exact .console rfl nofun
  | file =>
    cases path with
    | none => cases h
    | some path =>
      cases hopen : fs.openFile path.toList with
      | error => simp [LogTarget.openFor, hopen, Except.map] at h
      | ok r =>
        obtain ⟨rfl, rfl⟩ : LogTarget.file r.1 = t ∧ r.2 = fs' := by
          simpa [LogTarget.openFor, hopen, Except.map] using h
        exact .file rfl (Files.opened_of_openFile hopen)

/-- What is true of the files and the logs after any steps, given the files at first and the records
so far. -/
structure Kept (fs : Files) (s : Shelf) (ws : List (OpenLog × Bytes)) : Prop where
  sound : s.files.Sound
  ways : fs.SameWays s.files
  leads : ∀ l ∈ s.logs, Leads s.files l
  written : ∀ w ∈ ws, w.1 ∈ s.logs
  held : ∀ n, s.files.held n = fs.held n ++ recordsTo n ws
  length_le : fs.contents.length ≤ s.files.contents.length
  stays : ∀ path n, fs.file? path = some n → s.files.file? path = some n
  made : ∀ path n, s.files.file? path = some n →
    fs.file? path = some n ∨ fs.contents.length ≤ n ∧ ∃ l ∈ s.logs, l.target = .file n

namespace Kept

variable {fs : Files} {s : Shelf} {ws : List (OpenLog × Bytes)}

theorem start (h : fs.Sound) : Kept fs ⟨fs, []⟩ [] where
  sound := h
  ways := .refl fs
  leads := nofun
  written := nofun
  held _ := (List.append_nil _).symm
  length_le := le_rfl
  stays _ _ := id
  made _ _ := .inl

theorem openLog (h : Kept fs s ws) (a : Settings.AccessLog) : Kept fs (s.act (.openLog a)) ws := by
  rw [act]
  split
  next t files hopen =>
    have hwritten : ∀ w ∈ ws, w.1 ∈ s.logs ++ [⟨a, t⟩] :=
      fun w hw => List.mem_append_left _ (h.written w hw)
    have hmade : ∀ path n, s.files.file? path = some n →
        fs.file? path = some n ∨ fs.contents.length ≤ n ∧ ∃ l ∈ s.logs ++ [⟨a, t⟩],
          l.target = .file n := by
      intro path n hfile
      exact (h.made path n hfile).imp_right fun ⟨hle, l, hl, ht⟩ =>
        ⟨hle, l, List.mem_append_left _ hl, ht⟩
    cases opening_of_openFor hopen with
    | console hpath htarget =>
      refine ⟨h.sound, h.ways, ?_, hwritten, h.held, h.length_le, h.stays, hmade⟩
      exact List.forall_mem_append.2 ⟨h.leads, List.forall_mem_singleton.2 (.console hpath htarget)⟩
    | file hpath hopened =>
      have hleads : ∀ l ∈ s.logs, Leads files l :=
        fun l hl => (h.leads l hl).mono fun _ _ => hopened.stays
      refine ⟨hopened.sound h.sound, h.ways.trans hopened.sameWays, ?_, hwritten, fun n => ?_,
        h.length_le.trans hopened.length_le, fun path n hfile =>
          hopened.stays (h.stays path n hfile),
        fun path n hfile => ?_⟩
      · exact List.forall_mem_append.2 ⟨hleads,
          List.forall_mem_singleton.2 (.file hpath rfl hopened.file?_eq)⟩
      · rw [hopened.held_eq, h.held]
      · obtain hthere | ⟨hle, rfl⟩ := hopened.made_or_there hfile
        · exact hmade path n hthere
        · exact .inr ⟨h.length_le.trans hle, _,
            List.mem_append_right _ (List.mem_singleton_self _), rfl⟩
  next => exact h

theorem append (h : Kept fs s ws) (i : Nat) (record : Bytes) :
    Kept fs (s.act (.append i record)) (ws ++ s.written (.append i record)) := by
  rw [act, Shelf.written]
  cases hlog : s.logs[i]? with
  | none => simpa using h
  | some l =>
    have hmem : l ∈ s.logs := List.mem_of_getElem? hlog
    have hwritten : ∀ w ∈ ws ++ [(l, record)], w.1 ∈ s.logs :=
      List.forall_mem_append.2 ⟨h.written, List.forall_mem_singleton.2 hmem⟩
    show Kept fs { s with files := l.target.append record s.files } (ws ++ [(l, record)])
    cases h.leads l hmem with
    | console _ htarget =>
      have hsame : l.target.append record s.files = s.files :=
        LogTarget.append_of_console htarget record s.files
      rw [hsame]
      exact { h with
        written := hwritten
        held := fun n => by rw [h.held, recordsTo_concat, if_neg (htarget n), List.append_nil] }
    | @file _ m _ htarget hfile =>
      have hm : m < s.files.contents.length := h.sound.lt_of_file? hfile
      have hlength : (s.files.append m record).contents.length = s.files.contents.length :=
        List.length_modify ..
      rw [htarget, LogTarget.append]
      -- The names are as they were, so that only what the file holds has to be looked at.
      refine ⟨h.sound.append m record, ⟨h.ways.base, h.ways.directory⟩,
        fun l hl => (h.leads l hl).mono fun _ _ => id, hwritten, fun n => ?_, hlength ▸ h.length_le,
        h.stays, h.made⟩
      simp only [Files.held_append hm, h.held, recordsTo_concat, htarget, List.append_assoc,
        LogTarget.file.injEq]

theorem recordsOn_eq (h : Kept fs s ws) {path : List Char} {n : Nat}
    (hfile : s.files.file? path = some n) :
    recordsOn s.files path ws = recordsTo n ws := by
  have hsame : ∀ w ∈ ws, w.1.isOn s.files path = decide (w.1.target = .file n) := fun w hw =>
    (h.leads _ (h.written w hw)).isOn hfile
  rw [recordsOn, recordsTo, List.filter_congr hsame]

theorem read_of_there (h : Kept fs s ws) {path : List Char} {bs : Bytes}
    (hread : fs.read path = .ok bs) :
    s.files.read path = .ok (bs ++ recordsOn s.files path ws) := by
  obtain ⟨n, hfile, rfl⟩ := Files.read_eq_ok_iff.1 hread
  have hstays := h.stays path n hfile
  exact Files.read_eq_ok_iff.2 ⟨n, hstays, by rw [h.recordsOn_eq hstays, h.held]⟩

theorem isOn_path (h : Kept fs s ws) {l : OpenLog} (hl : l ∈ s.logs) {path : List Char}
    (hpath : l.path? = some path) :
    l.isOn s.files path = true := by
  cases h.leads l hl with
  | console hnone => cases hnone.symm.trans hpath
  | file hpath' htarget hfile =>
    cases hpath.symm.trans hpath'
    exact (h.leads l hl).isOn_of_target htarget hfile

theorem read_of_missing (h : Kept fs s ws) {path : List Char}
    (hmissing : ∀ bs, fs.read path ≠ .ok bs) (bs : Bytes) :
    s.files.read path = .ok bs ↔ (∃ l ∈ s.logs, l.isOn s.files path = true) ∧
      bs = recordsOn s.files path ws := by
  have hnew : ∀ {n}, s.files.file? path = some n →
      (∃ l ∈ s.logs, l.isOn s.files path = true) ∧ s.files.held n = recordsOn s.files path ws := by
    intro n hfile
    obtain hthere | ⟨hle, l, hl, htarget⟩ := h.made path n hfile
    · exact absurd (Files.read_eq_ok_iff.2 ⟨n, hthere, rfl⟩) (hmissing _)
    · rw [h.held, Files.held_of_length_le hle, h.recordsOn_eq hfile, List.nil_append]
      exact ⟨⟨l, hl, (h.leads l hl).isOn_of_target htarget hfile⟩, rfl⟩
  constructor
  · intro hread
    obtain ⟨n, hfile, rfl⟩ := Files.read_eq_ok_iff.1 hread
    exact hnew hfile
  · rintro ⟨⟨l, -, hon⟩, rfl⟩
    obtain ⟨n, hfile⟩ := OpenLog.file?_of_isOn hon
    exact Files.read_eq_ok_iff.2 ⟨n, hfile, (hnew hfile).2⟩

end Kept

theorem kept_run {fs : Files} (h : fs.Sound) (as : List Act) :
    Kept fs (run ⟨fs, []⟩ as) (writes ⟨fs, []⟩ as) := by
  induction as using List.reverseRecOn with
  | nil => exact .start h
  | append_singleton as a ih =>
    rw [run_concat, writes_concat]
    cases a with
    | openLog a =>
      rw [Shelf.written, List.append_nil]
      exact ih.openLog a
    | append i record => exact ih.append i record

/-- A log that is served changes the files as a log of the shelf does. -/
theorem files_run_append {s : Shelf} {i : Nat} {l : OpenLog} (hlog : s.logs[i]? = some l)
    {o : Outlet} (htarget : o.target = l.target) (hfiles : o.files = s.files)
    (records : List Bytes) :
    (s.run (records.map (.append i))).files =
      (records.foldl (fun o record => o.append record) o).files := by
  induction records generalizing s o with
  | nil => exact hfiles.symm
  | cons record records ih =>
    let s' : Shelf := { s with files := l.target.append record s.files }
    have hact : s.act (.append i record) = s' := by rw [act, hlog]
    rw [List.map_cons, run, List.foldl_cons, hact, List.foldl_cons]
    refine ih (s := s') hlog ?_ ?_
    · rw [Outlet.target_append, htarget]
    · rw [Outlet.files_append, htarget, hfiles]

/-- A file that was there holds what it held, and then the records of the logs on it, in the order
of the appends. Any other is there only if a log was opened on it, and holds just the records. A log
that cannot be opened leaves all as it is; and to open one adds an empty file, if it was missing,
and changes no other. -/
theorem files_only_grow {fs : Files} (h : fs.Sound) (as : List Act) :
    let s := run ⟨fs, []⟩ as
    let ws := writes ⟨fs, []⟩ as
    (∀ path bs, fs.read path = .ok bs → s.files.read path = .ok (bs ++ recordsOn s.files path ws)) ∧
    (∀ path, (∀ bs, fs.read path ≠ .ok bs) → ∀ bs,
      (s.files.read path = .ok bs ↔ (∃ l ∈ s.logs, l.isOn s.files path = true) ∧
        bs = recordsOn s.files path ws)) ∧
    (∀ l ∈ s.logs, ∀ path, l.path? = some path → l.isOn s.files path = true) ∧
    (∀ a f, LogTarget.openFor a s.files = .error f → s.act (.openLog a) = s) ∧
    ∀ a target files, LogTarget.openFor a s.files = .ok (target, files) →
      (∀ path bs, s.files.read path = .ok bs → files.read path = .ok bs) ∧
      ∀ path, OpenLog.path? ⟨a, target⟩ = some path → (∀ bs, s.files.read path ≠ .ok bs) →
        files.read path = .ok [] := by
  intro s ws
  have hkept : Kept fs s ws := kept_run h as
  refine ⟨fun path bs => hkept.read_of_there, fun path => hkept.read_of_missing,
    fun l hl path => hkept.isOn_path hl, fun a f hopen => ?_, fun a target files hopen => ?_⟩
  · rw [act, hopen]
  · cases opening_of_openFor hopen with
    | console hnone => exact ⟨fun _ _ => id, fun path hpath => by cases hnone.symm.trans hpath⟩
    | file hpath hopened =>
      refine ⟨fun _ _ => hopened.read_stays, fun path hpath' => ?_⟩
      cases hpath.symm.trans hpath'
      exact hopened.read_new

theorem files_only_grow_of_two_names :
    let fs : Files := { entries := [(["a".toList], .file 0)], contents := [[0x78]] }
    let as : List Act :=
      [.openLog ⟨.file, some "a"⟩, .append 0 [0x31], .openLog ⟨.file, some "./a"⟩,
        .openLog ⟨.file, some "b"⟩,
        .openLog ⟨.file, some "a/c"⟩, .append 2 [0x32], .append 1 [0x33], .append 0 [0x34]]
    fs.Sound ∧ (run ⟨fs, []⟩ as).files.read "a".toList = .ok [0x78, 0x31, 0x33, 0x34] ∧
      (run ⟨fs, []⟩ as).files.read "b".toList = .ok [0x32] ∧
      ∀ bs, (run ⟨fs, []⟩ as).files.read "a/c".toList ≠ .ok bs := by
  intro fs as
  have hwrite : ({} : Files).write "a".toList [0x78] = .ok fs := rfl
  have hsound : fs.Sound := (Files.Sound.empty []).change (.written hwrite)
  have hb : ∀ bs, fs.read "b".toList ≠ .ok bs := nofun
  have hc : ∀ bs, fs.read "a/c".toList ≠ .ok bs := nofun
  obtain ⟨hthere, hmissing, -⟩ := files_only_grow hsound as
  refine ⟨hsound, (hthere _ [0x78] rfl).trans (congrArg Except.ok ?_), (hmissing _ hb _).2 ?_,
    fun bs hread => ?_⟩
  · decide +kernel
  · decide +kernel
  · have hnone :
        ¬∃ l ∈ (run ⟨fs, []⟩ as).logs, l.isOn (run ⟨fs, []⟩ as).files "a/c".toList = true := by
      decide +kernel
    exact hnone ((hmissing _ hc bs).1 hread).1

end Shelf

end AccessTrail
