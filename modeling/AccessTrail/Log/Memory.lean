import AccessTrail.Log.Basic
import AccessTrail.Text.Lines

namespace AccessTrail

structure MemoryLog where
  bytes : Bytes := []
  deriving DecidableEq

namespace MemoryLog

instance : Log MemoryLog where
  append record l := (.kept, ⟨l.bytes ++ record⟩)
  stored := MemoryLog.bytes

def contents (l : MemoryLog) : List Char := Utf8.lossy l.bytes

def lines (l : MemoryLog) : List (List Char) := Text.lines l.contents

end MemoryLog

end AccessTrail
