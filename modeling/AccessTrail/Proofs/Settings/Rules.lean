import AccessTrail.Proofs.Files
import AccessTrail.Server.Startup
import Mathlib.Data.List.Basic

namespace AccessTrail

namespace Settings

inductive Rule
  | address
  | path
  | timeout
  deriving DecidableEq

namespace Rule

def all : List Rule := [address, path, timeout]

def Kept (s : Settings) : Rule → Prop
  | address => ∃ a, Net.SocketAddress.parse? s.listener.bindAddress = some a
  | path => s.accessLog.destination = .file → ∃ p, s.accessLog.path = some p
  | timeout => 1 ≤ s.timeouts.requestSecs.toNat

def flaw (s : Settings) : Rule → Flaw
  | address => .badAddress s.listener.bindAddress
  | path => .pathMissing
  | timeout => .zeroTimeout

def Alike (s s' : Settings) : Rule → Prop
  | address => s.listener = s'.listener
  | path => s.accessLog = s'.accessLog
  | timeout => s.timeouts = s'.timeouts

instance (s : Settings) : DecidablePred (Kept s)
  | address => decidable_of_iff _ Option.isSome_iff_exists
  | path => decidable_of_iff (s.accessLog.destination = .file → s.accessLog.path.isSome)
      (imp_congr_right fun _ => Option.isSome_iff_exists)
  | timeout => inferInstanceAs (Decidable (1 ≤ s.timeouts.requestSecs.toNat))

theorem nodup_all : all.Nodup := by decide

theorem mem_all (r : Rule) : r ∈ all := by cases r <;> decide

theorem flaw_injective (s : Settings) : Function.Injective (flaw s) := by
  intro r r' h
  cases r <;> cases r' <;> first | rfl | cases h

variable {s s' : Settings} {r : Rule}

theorem Alike.kept_iff (h : Alike s s' r) : Kept s r ↔ Kept s' r := by
  cases r <;> simp only [Alike] at h <;> simp only [Kept, h]

theorem Alike.flaw_eq (h : Alike s s' r) : flaw s r = flaw s' r := by
  cases r with
  | address => rw [flaw, flaw, show s.listener = s'.listener from h]
  | path | timeout => rfl

end Rule

theorem Listener.flaws_eq (s : Settings) :
    s.listener.flaws = if Rule.Kept s .address then [] else [Rule.flaw s .address] :=
  if_congr Option.isSome_iff_exists rfl rfl

theorem AccessLog.flaws_eq (s : Settings) :
    s.accessLog.flaws = if Rule.Kept s .path then [] else [Rule.flaw s .path] := by
  have hbroken : s.accessLog.destination = .file ∧ s.accessLog.path = none ↔
      ¬ Rule.Kept s .path := by
    simp [Rule.Kept, Option.eq_none_iff_forall_ne_some]
  exact (if_congr hbroken rfl rfl).trans (ite_not ..)

theorem Timeouts.flaws_eq (s : Settings) :
    s.timeouts.flaws = if Rule.Kept s .timeout then [] else [Rule.flaw s .timeout] := by
  have hbroken : s.timeouts.requestSecs = 0 ↔ ¬ Rule.Kept s .timeout := by
    rw [Rule.Kept, ← UInt64.toNat_inj, Nat.not_le, Nat.lt_one_iff]
    rfl
  exact (if_congr hbroken rfl rfl).trans (ite_not ..)

theorem flaws_eq (s : Settings) :
    s.flaws = (Rule.all.filter (¬ Rule.Kept s ·)).map (Rule.flaw s) := by
  rw [flaws, Listener.flaws_eq, AccessLog.flaws_eq, Timeouts.flaws_eq, Rule.all]
  by_cases haddress : Rule.Kept s .address <;> by_cases hpath : Rule.Kept s .path <;>
    by_cases htimeout : Rule.Kept s .timeout <;> simp [haddress, hpath, htimeout]

theorem flaws_eq_nil_iff {s : Settings} : s.flaws = [] ↔ ∀ r, Rule.Kept s r := by
  simp [flaws_eq, Rule.mem_all]

theorem flaws_of_mended {s s' : Settings} {r : Rule} (hkept : Rule.Kept s' r)
    (hothers : ∀ r' ≠ r, Rule.Alike s s' r') : s'.flaws = s.flaws.erase (Rule.flaw s r) := by
  have hbroken : ∀ r', ¬ Rule.Kept s' r' ↔ r' ≠ r ∧ ¬ Rule.Kept s r' := by
    intro r'
    by_cases hr : r' = r
    · simp [hr, hkept]
    · simp [hr, (hothers r' hr).kept_iff]
  have hrules : Rule.all.filter (¬ Rule.Kept s' ·) =
      (Rule.all.filter (¬ Rule.Kept s ·)).erase r := by
    rw [List.Nodup.erase_eq_filter (Rule.nodup_all.filter _), List.filter_filter]
    exact List.filter_congr fun r' _ => Bool.eq_iff_iff.2 (by simp [hbroken])
  rw [flaws_eq, flaws_eq, hrules, ← List.map_erase (Rule.flaw_injective s)]
  refine List.map_congr_left fun r' hr' => ?_
  have hne : r' ≠ r := fun h => List.Nodup.not_mem_erase (Rule.nodup_all.filter _) (h ▸ hr')
  exact (hothers r' hne).flaw_eq.symm

theorem flaws_of_load {fs : Files} {path : String} {s : Settings} (h : load fs path = .ok s) :
    s.flaws = [] := by
  simp only [load, ofBytes] at h
  repeat' split at h
  all_goals cases h
  assumption

theorem flawed_of_load {fs : Files} {path : String} {flaws : List Flaw}
    (h : load fs path = .error (.flawed flaws)) :
    flaws ≠ [] ∧ ∃ s : Settings, flaws = s.flaws := by
  simp only [load, ofBytes] at h
  repeat' split at h
  all_goals cases h
  exact ⟨by assumption, _, rfl⟩

theorem resolve_of_address {s : String} {a : Net.SocketAddress}
    (h : Net.SocketAddress.parse? s = some a) :
    Net.Endpoint.parse s >>= Net.Endpoint.resolve = .ok a := by
  rw [Net.Endpoint.parse, h]
  rfl

end Settings

theorem LogTarget.openFor_error {a : Settings.AccessLog} {fs : Files} {f : Fault}
    (hpath : a.destination = .file → ∃ p, a.path = some p) (h : openFor a fs = .error f) :
    f.text ≠ pathNotSet.text ∧ ∃ p, a.destination = .file ∧ a.path = some p ∧
      fs.openFile p.toList = .error f := by
  rcases a with ⟨_ | _ | _, path⟩
  · cases h
  · cases h
  · obtain ⟨p, rfl⟩ := hpath rfl
    cases hopen : fs.openFile p.toList with
    | ok r => simp [openFor, hopen, Except.map] at h
    | error g =>
      obtain rfl : g = f := by simpa [openFor, hopen, Except.map] using h
      have hfaults : ∀ f ∈ Files.openingFaults, f.text ≠ pathNotSet.text := by decide
      exact ⟨hfaults g (Files.openFile_error hopen), p, rfl, rfl, hopen⟩

namespace Settings

/-- Settings that were loaded can be started with: their address is one, a request has time, and the
log cannot fail but over the file that they name. All settings have exactly the flaws of the rules
that they break, in order, and to mend one takes its flaw away and no other. -/
theorem startable_of_load :
    (∀ fs path s, load fs path = .ok s →
      (∀ r, Rule.Kept s r) ∧
      (∃ a, Net.SocketAddress.parse? s.listener.bindAddress = some a ∧
        Net.Endpoint.parse s.listener.bindAddress >>= Net.Endpoint.resolve = .ok a) ∧
      ∀ fs' f, LogTarget.openFor s.accessLog fs' = .error f →
        f.text ≠ LogTarget.pathNotSet.text ∧
        ∃ p, s.accessLog.destination = .file ∧ s.accessLog.path = some p ∧
          fs'.openFile p.toList = .error f) ∧
    (∀ fs path flaws, load fs path = .error (.flawed flaws) → flaws ≠ [] ∧
      ∃ s : Settings, flaws = s.flaws) ∧
    (∀ s : Settings, s.flaws = (Rule.all.filter (¬ Rule.Kept s ·)).map (Rule.flaw s)) ∧
    ∀ (s s' : Settings) (r : Rule), Rule.Kept s' r → (∀ r' ≠ r, Rule.Alike s s' r') →
      s'.flaws = s.flaws.erase (Rule.flaw s r) := by
  refine ⟨fun fs path s hload => ?_, fun _ _ _ => flawed_of_load, flaws_eq,
    fun _ _ _ => flaws_of_mended⟩
  have hkept : ∀ r, Rule.Kept s r := flaws_eq_nil_iff.1 (flaws_of_load hload)
  obtain ⟨a, ha⟩ := hkept .address
  exact ⟨hkept, ⟨a, ha, resolve_of_address ha⟩, fun _ _ => LogTarget.openFor_error (hkept .path)⟩

theorem startable_of_load_of_file :
    let fs : Files :=
      { entries := [([['a']], .file 0)]
        contents := [Utf8.encode "[access_log]\npath = \"log\"\ndestination = \"file\"\n".toList] }
    let s : Settings := { accessLog := ⟨.file, some "log"⟩ }
    let broken : Settings := ⟨⟨"localhost"⟩, ⟨.file, none⟩, ⟨0⟩, {}⟩
    load fs "a" = .ok s ∧ (∀ r, Rule.Kept s r) ∧
      (∀ f, LogTarget.openFor s.accessLog { entries := [([['l', 'o', 'g']], .directory)] } =
        .error f →
        f.text ≠ LogTarget.pathNotSet.text) ∧
      broken.flaws = [.badAddress "localhost", .pathMissing, .zeroTimeout] ∧
      { broken with accessLog := s.accessLog }.flaws = [.badAddress "localhost", .zeroTimeout] := by
  intro fs s broken
  have hload : load fs "a" = .ok s := by
    have hsome : (load fs "a").toOption = some s := by decide +kernel
    cases h : load fs "a" with
    | ok s' =>
      rw [h] at hsome
      exact congrArg _ (Option.some.inj hsome)
    | error e =>
      rw [h] at hsome
      cases hsome
  obtain ⟨hloaded, -, hflaws, hmended⟩ := startable_of_load
  have hbroken : broken.flaws = [.badAddress "localhost", .pathMissing, .zeroTimeout] := by
    decide +kernel
  refine ⟨hload, (hloaded _ _ _ hload).1, fun f hf => ((hloaded _ _ _ hload).2.2 _ f hf).1, hbroken,
    ?_⟩
  rw [hmended broken _ .path (fun _ => ⟨"log", rfl⟩)
    (by rintro (_ | _ | _) hne <;> first | rfl | exact absurd rfl hne),
    hbroken]
  decide

end Settings

end AccessTrail
