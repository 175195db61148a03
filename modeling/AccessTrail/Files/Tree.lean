import AccessTrail.Fault
import AccessTrail.Text.Utf8

/-!
A tree of directories and files. A file is known by its number: a name leads to it, and whoever has
it open keeps it when the name is changed or removed. A path that does not begin at the root begins
at the base.
-/

namespace AccessTrail

inductive Node
  | directory
  | file : (number : Nat) → Node
  deriving DecidableEq

abbrev Place := List (List Char)

structure Files where
  entries : List (Place × Node) := []
  contents : List Bytes := []
  base : Place := []
  deriving DecidableEq

namespace Files

def missing : Fault := .system .notFound 2 "No such file or directory"
def busy : Fault := .system .resourceBusy 16 "Device or resource busy"
def present : Fault := .system .alreadyExists 17 "File exists"
def notDirectory : Fault := .system .notADirectory 20 "Not a directory"
def isDirectory : Fault := .system .isADirectory 21 "Is a directory"
def invalid : Fault := .system .invalidInput 22 "Invalid argument"
def nameTooLong : Fault := .system .invalidFilename 36 "File name too long"
def notEmpty : Fault := .system .directoryNotEmpty 39 "Directory not empty"
def nulInName : Fault := .fixed .invalidInput "file name contained an unexpected NUL byte"

def nameLimit : Nat := 255
def pathLimit : Nat := 4095

def isTooLong (name : List Char) : Bool := nameLimit < (Utf8.encode name).length

def splitPath : List Char → List (List Char)
  | [] => [[]]
  | c :: cs =>
    if c = '/' then [] :: splitPath cs
    else
      match splitPath cs with
      | [] => [[c]]
      | p :: ps => (c :: p) :: ps

def node? (fs : Files) : Place → Option Node
  | [] => some .directory
  | p => fs.entries.lookup p

def enter (fs : Files) (here : Place) (name : List Char) : Except Fault Place :=
  if name = ['.'] then .ok here
  else if name = ['.', '.'] then .ok here.dropLast
  else if isTooLong name then .error nameTooLong
  else
    match fs.node? (here ++ [name]) with
    | none => .error missing
    | some (.file _) => .error notDirectory
    | some .directory => .ok (here ++ [name])

inductive Spot
  | dots
  | name : (parent : Place) → (name : List Char) → (slash : Bool) → Spot
  deriving DecidableEq

def locate (fs : Files) (path : List Char) : Except Fault Spot :=
  let parts := splitPath path
  let names := parts.filter (!·.isEmpty)
  if path.contains '\x00' then .error nulInName
  else if path.isEmpty then .error missing
  else if pathLimit < (Utf8.encode path).length then .error nameTooLong
  else
    match names.getLast? with
    | none => .ok .dots
    | some last => do
      let parent ← names.dropLast.foldlM fs.enter (if path.head? = some '/' then [] else fs.base)
      if last = ['.'] || last = ['.', '.'] then return .dots
      return .name parent last (parts.getLast? == some [])

def entry? (fs : Files) (parent : Place) (name : List Char) : Except Fault (Option Node) :=
  if isTooLong name then .error nameTooLong else .ok (fs.node? (parent ++ [name]))

def create (p : Place) (bs : Bytes) (fs : Files) : Nat × Files :=
  (fs.contents.length,
    { fs with
      entries := fs.entries ++ [(p, .file fs.contents.length)]
      contents := fs.contents ++ [bs] })

def openFile (fs : Files) (path : List Char) : Except Fault (Nat × Files) := do
  match ← fs.locate path with
  | .dots | .name _ _ true => throw isDirectory
  | .name parent name false =>
    match ← fs.entry? parent name with
    | some .directory => throw isDirectory
    | some (.file n) => return (n, fs)
    | none => return fs.create (parent ++ [name]) []

def append (n : Nat) (bs : Bytes) (fs : Files) : Files :=
  { fs with contents := fs.contents.modify n (· ++ bs) }

def write (fs : Files) (path : List Char) (bs : Bytes) : Except Fault Files := do
  let (n, fs) ← fs.openFile path
  return { fs with contents := fs.contents.set n bs }

def read (fs : Files) (path : List Char) : Except Fault Bytes := do
  match ← fs.locate path with
  | .dots => throw isDirectory
  | .name parent name slash =>
    match ← fs.entry? parent name with
    | none => throw missing
    | some .directory => throw isDirectory
    | some (.file n) => if slash then throw notDirectory else return (fs.contents[n]?).getD []

def makeDirectory (fs : Files) (path : List Char) : Except Fault Files := do
  match ← fs.locate path with
  | .dots => throw present
  | .name parent name _ =>
    match ← fs.entry? parent name with
    | some _ => throw present
    | none => return { fs with entries := fs.entries ++ [(parent ++ [name], .directory)] }

def remove (fs : Files) (path : List Char) : Except Fault Files := do
  match ← fs.locate path with
  | .dots => throw isDirectory
  | .name parent name slash =>
    match ← fs.entry? parent name with
    | none => throw missing
    | some .directory => throw isDirectory
    | some (.file _) =>
      if slash then throw notDirectory
      else return { fs with entries := fs.entries.filter (·.1 != parent ++ [name]) }

def isBelow (p q : Place) : Bool := q.isPrefixOf p && p != q

def move (source target : Place) (fs : Files) : Files :=
  let kept := fs.entries.filter (·.1 != target)
  { fs with
    entries := kept.map fun (p, n) =>
      if source.isPrefixOf p then (target ++ p.drop source.length, n) else (p, n) }

def mayReplace (fs : Files) (node : Node) (target : Place) : Except Fault Unit :=
  match node, fs.node? target with
  | _, none => .ok ()
  | .file _, some .directory => .error isDirectory
  | .file _, some (.file _) => .ok ()
  | .directory, some (.file _) => .error notDirectory
  | .directory, some .directory =>
    if fs.entries.any (isBelow ·.1 target) then .error notEmpty else .ok ()

def rename (fs : Files) (path goal : List Char) : Except Fault Files := do
  match ← fs.locate path, ← fs.locate goal with
  | .name parent name slash, .name parent' name' slash' =>
    let source := parent ++ [name]
    let target := parent' ++ [name']
    match ← fs.entry? parent name with
    | none => throw missing
    | some node =>
      let there ← fs.entry? parent' name'
      if (slash || slash') && node != .directory then throw notDirectory
      if isBelow target source then throw invalid
      if isBelow source target then throw notEmpty
      if source == target || there == some node && node != .directory then return fs
      fs.mayReplace node target
      return fs.move source target
  | _, _ => throw busy

end Files

end AccessTrail
