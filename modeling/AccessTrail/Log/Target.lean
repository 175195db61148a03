import AccessTrail.Files.Tree
import AccessTrail.Log.Basic
import AccessTrail.Settings.Basic

namespace AccessTrail

inductive LogTarget
  | stdout
  | stderr
  | file : (number : Nat) → LogTarget
  deriving DecidableEq

namespace LogTarget

def pathNotSet : Fault := .custom .invalidInput "access log file path not set"

def openFor (a : Settings.AccessLog) (fs : Files) : Except Fault (LogTarget × Files) :=
  match a.destination, a.path with
  | .stdout, _ => .ok (.stdout, fs)
  | .stderr, _ => .ok (.stderr, fs)
  | .file, none => .error pathNotSet
  | .file, some path => (fs.openFile path.toList).map fun (n, fs) => (.file n, fs)

def append (record : Bytes) (t : LogTarget) (fs : Files) : Files :=
  match t with
  | .stdout | .stderr => fs
  | .file n => fs.append n record

end LogTarget

structure Outlet where
  target : LogTarget
  files : Files := {}
  stdout : Bytes := []
  stderr : Bytes := []
  deriving DecidableEq

namespace Outlet

def append (record : Bytes) (o : Outlet) : Outlet :=
  let files := o.target.append record o.files
  match o.target with
  | .stdout => { o with files, stdout := o.stdout ++ record }
  | .stderr => { o with files, stderr := o.stderr ++ record }
  | .file _ => { o with files }

@[simp] theorem files_append (record : Bytes) (o : Outlet) :
    (o.append record).files = o.target.append record o.files := by
  unfold append
  split <;> rfl

@[simp] theorem target_append (record : Bytes) (o : Outlet) :
    (o.append record).target = o.target := by
  unfold append
  split <;> rfl

def stored (o : Outlet) : Bytes :=
  match o.target with
  | .stdout => o.stdout
  | .stderr => o.stderr
  | .file n => (o.files.contents[n]?).getD []

instance : Log Outlet where
  append record o := (.kept, o.append record)
  stored := Outlet.stored

end Outlet

end AccessTrail
