import AccessTrail.Text.Utf8
import AccessTrail.Http.Token

namespace AccessTrail.Http

def lowerAscii (c : Char) : Char :=
  if 'A' ≤ c ∧ c ≤ 'Z' then Char.ofNat (c.toNat + 32) else c

def headerNameLimit : Nat := 65535

def headerName? (s : String) : Option String :=
  if isToken s.toList && s.utf8ByteSize ≤ headerNameLimit then
    some (String.ofList (s.toList.map lowerAscii))
  else none

def isValueByte (b : UInt8) : Bool := (0x20 ≤ b && b != 0x7F) || b == 0x09

def isHeaderValue (bs : Bytes) : Bool := bs.all isValueByte

structure Headers where
  fields : List (String × Bytes) := []
  deriving DecidableEq

namespace Headers

def empty : Headers := {}

def get? (h : Headers) (name : String) : Option Bytes := h.fields.lookup name

def values (h : Headers) (name : String) : List Bytes :=
  (h.fields.filter (·.1 == name)).map (·.2)

def remove (name : String) (h : Headers) : Headers := ⟨h.fields.filter (·.1 != name)⟩

def add (name : String) (value : Bytes) (h : Headers) : Headers :=
  ⟨h.fields ++ [(name, value)]⟩

def set (name : String) (value : Bytes) (h : Headers) : Headers :=
  (h.remove name).add name value

@[simp] theorem values_remove_self (name : String) (h : Headers) :
    (h.remove name).values name = [] := by
  simp [values, remove, List.filter_filter]

@[simp] theorem values_remove_of_ne {name other : String} (hne : name ≠ other) (h : Headers) :
    (h.remove other).values name = h.values name := by
  have hfilter : ∀ field : String × Bytes,
      (field.1 == name && field.1 != other) = (field.1 == name) := by
    intro field
    by_cases hname : field.1 = name <;> simp [hname, hne]
  simp [values, remove, List.filter_filter, hfilter]

@[simp] theorem values_set_self (name : String) (value : Bytes) (h : Headers) :
    (h.set name value).values name = [value] := by
  have hremoved : (h.remove name).values name = [] := values_remove_self name h
  rw [values] at hremoved
  simp [set, add, values, hremoved]

@[simp] theorem values_set_of_ne {name other : String} (hne : name ≠ other) (value : Bytes)
    (h : Headers) : (h.set other value).values name = h.values name := by
  have hremoved : (h.remove other).values name = h.values name := values_remove_of_ne hne h
  rw [values] at hremoved
  simp [set, add, values, hne.symm, hremoved]

def sorted (h : Headers) : List (String × Bytes) :=
  h.fields.mergeSort fun a b => a.1 ≤ b.1

end Headers

end AccessTrail.Http
