import AccessTrail.Toml.Line

namespace AccessTrail.Toml

structure Draft where
  root : Fields := []
  current : Fields := []
  under : Option (Bool × List String × String) := none

namespace Draft

def settle (d : Draft) : Option Fields :=
  match d.under with
  | none => some d.current
  | some (array, path, name) =>
    let change (_ : Origin) (fs : Fields) : Option (Fields × Unit) :=
      match array, fs.lookup name with
      | true, some (.array true items) =>
        some (fs.replace name (.array true (items ++ [.table .header d.current])), ())
      | false, none => some (fs ++ [(name, .table .header d.current)], ())
      | _, _ => none
    (Fields.descend false change path .header d.root).map (·.1)

/-- A table that was only passed through is taken up again, and moves to the end. -/
def opened (array : Bool) (name : String) (_ : Origin) (fs : Fields) : Option (Fields × Fields) :=
  match array, fs.lookup name with
  | true, none => some (fs ++ [(name, .array true [])], [])
  | true, some (.array true _) => some (fs, [])
  | false, none => some (fs, [])
  | false, some (.table .passed sub) => some (fs.erase name, sub)
  | _, _ => none

def add (d : Draft) : Line → Option Draft
  | .pair p => (d.current.put p.path p.name p.value).map fun current => { d with current }
  | .header array path name => do
    let root ← d.settle
    let (root, current) ← Fields.descend false (opened array name) path .header root
    return { root, current, under := some (array, path, name) }

end Draft

def parse? (cs : List Char) : Option Fields := do
  let d ← (← lines? cs).foldlM Draft.add {}
  d.settle

end AccessTrail.Toml
