namespace AccessTrail

inductive FaultKind
  | notFound
  | permissionDenied
  | connectionRefused
  | connectionReset
  | connectionAborted
  | notConnected
  | addrInUse
  | addrNotAvailable
  | brokenPipe
  | alreadyExists
  | wouldBlock
  | notADirectory
  | isADirectory
  | directoryNotEmpty
  | invalidInput
  | invalidData
  | timedOut
  | writeZero
  | storageFull
  | invalidFilename
  | interrupted
  | unsupported
  | unexpectedEof
  | outOfMemory
  | resourceBusy
  | uncategorized
  | other
  deriving DecidableEq

namespace FaultKind

def name : FaultKind → String
  | notFound => "NotFound"
  | permissionDenied => "PermissionDenied"
  | connectionRefused => "ConnectionRefused"
  | connectionReset => "ConnectionReset"
  | connectionAborted => "ConnectionAborted"
  | notConnected => "NotConnected"
  | addrInUse => "AddrInUse"
  | addrNotAvailable => "AddrNotAvailable"
  | brokenPipe => "BrokenPipe"
  | alreadyExists => "AlreadyExists"
  | wouldBlock => "WouldBlock"
  | notADirectory => "NotADirectory"
  | isADirectory => "IsADirectory"
  | directoryNotEmpty => "DirectoryNotEmpty"
  | invalidInput => "InvalidInput"
  | invalidData => "InvalidData"
  | timedOut => "TimedOut"
  | writeZero => "WriteZero"
  | storageFull => "StorageFull"
  | invalidFilename => "InvalidFilename"
  | interrupted => "Interrupted"
  | unsupported => "Unsupported"
  | unexpectedEof => "UnexpectedEof"
  | outOfMemory => "OutOfMemory"
  | resourceBusy => "ResourceBusy"
  | uncategorized => "Uncategorized"
  | other => "Other"

def text : FaultKind → String
  | notFound => "entity not found"
  | permissionDenied => "permission denied"
  | connectionRefused => "connection refused"
  | connectionReset => "connection reset"
  | connectionAborted => "connection aborted"
  | notConnected => "not connected"
  | addrInUse => "address in use"
  | addrNotAvailable => "address not available"
  | brokenPipe => "broken pipe"
  | alreadyExists => "entity already exists"
  | wouldBlock => "operation would block"
  | notADirectory => "not a directory"
  | isADirectory => "is a directory"
  | directoryNotEmpty => "directory not empty"
  | invalidInput => "invalid input parameter"
  | invalidData => "invalid data"
  | timedOut => "timed out"
  | writeZero => "write zero"
  | storageFull => "no storage space"
  | invalidFilename => "invalid filename"
  | interrupted => "operation interrupted"
  | unsupported => "unsupported"
  | unexpectedEof => "unexpected end of file"
  | outOfMemory => "out of memory"
  | resourceBusy => "resource busy"
  | uncategorized => "uncategorized error"
  | other => "other error"

def all : List FaultKind :=
  [notFound, permissionDenied, connectionRefused, connectionReset, connectionAborted, notConnected,
   addrInUse, addrNotAvailable, brokenPipe, alreadyExists, wouldBlock, notADirectory, isADirectory,
   directoryNotEmpty, invalidInput, invalidData, timedOut, writeZero, storageFull, invalidFilename,
   interrupted, unsupported, unexpectedEof, outOfMemory, resourceBusy, uncategorized,
   other]

def ofName? (s : String) : Option FaultKind := all.find? (·.name == s)

end FaultKind

inductive FaultText
  | ofKind : FaultText
  | fixed : String → FaultText
  | custom : String → FaultText
  | system : (code : Nat) → String → FaultText
  deriving DecidableEq

structure Fault where
  kind : FaultKind
  wording : FaultText := .ofKind
  deriving DecidableEq

namespace Fault

def text (f : Fault) : String :=
  match f.wording with
  | .ofKind => f.kind.text
  | .fixed s | .custom s => s
  | .system code s => s ++ " (os error " ++ toString code ++ ")"

def fixed (kind : FaultKind) (s : String) : Fault := ⟨kind, .fixed s⟩

def custom (kind : FaultKind) (s : String) : Fault := ⟨kind, .custom s⟩

def system (kind : FaultKind) (code : Nat) (s : String) : Fault := ⟨kind, .system code s⟩

def ofCode (code : Nat) (details : String) : Fault :=
  match code with
  | 1 => system .permissionDenied 1 "Operation not permitted"
  | 2 => system .notFound 2 "No such file or directory"
  | 13 => system .permissionDenied 13 "Permission denied"
  | 20 => system .notADirectory 20 "Not a directory"
  | 21 => system .isADirectory 21 "Is a directory"
  | 22 => system .invalidInput 22 "Invalid argument"
  | 28 => system .storageFull 28 "No space left on device"
  | 36 => system .invalidFilename 36 "File name too long"
  | 97 => system .uncategorized 97 "Address family not supported by protocol"
  | 98 => system .addrInUse 98 "Address already in use"
  | 99 => system .addrNotAvailable 99 "Cannot assign requested address"
  | _ => system .uncategorized code details

end Fault

inductive Refusal
  | notSupported
  | alreadyTaken
  deriving DecidableEq

def Refusal.text : Refusal → String
  | .notSupported => "connection upgrade not supported"
  | .alreadyTaken => "connection already hijacked"

structure Failure where
  text : String
  causes : List String := []
  deriving DecidableEq

def Failure.root (f : Failure) : String := f.causes.getLast?.getD f.text

def Failure.within (outer : String) (f : Failure) : Failure := ⟨outer, f.text :: f.causes⟩

@[simp] theorem Failure.root_within (outer : String) (f : Failure) :
    (f.within outer).root = f.root := by
  cases f with
  | mk t cs =>
    cases cs with
    | nil => rfl
    | cons c cs =>
      simp only [Failure.root, Failure.within, List.getLast?_cons_cons]
      rw [List.getLast?_eq_some_getLast (List.cons_ne_nil c cs)]
      rfl

end AccessTrail
