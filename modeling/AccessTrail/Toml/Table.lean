import AccessTrail.Toml.Value

/-!
Tables under construction. A path leads down through tables, and through the last table of an array
built by headers. Nothing is defined twice, and what dotted keys made is not mixed with what headers
made.
-/

namespace AccessTrail.Toml

namespace Fields

def replace (k : String) (v : Value) : Fields → Fields
  | [] => []
  | (k', v') :: fs => if k' = k then (k, v) :: fs else (k', v') :: replace k v fs

def erase (k : String) (fs : Fields) : Fields := fs.filter (·.1 != k)

/-- Follows a path and changes the table at its end. A dotted key does not pass through a table with
a header of its own. -/
def descend {α : Type} (dotted : Bool) (change : Origin → Fields → Option (Fields × α)) :
    List String → Origin → Fields → Option (Fields × α)
  | [], origin, fs => change origin fs
  | k :: path, _, fs =>
    match fs.lookup k with
    | none =>
      let origin := if dotted then .dotted else .passed
      (descend dotted change path origin []).map fun (sub, a) =>
        (fs ++ [(k, .table origin sub)], a)
    | some (.table .inline _) => none
    | some (.table origin sub) =>
      if dotted && origin == .header then none
      else
        (descend dotted change path origin sub).map fun (sub, a) =>
          (replace k (.table origin sub) fs, a)
    | some (.array true items) =>
      match items.getLast? with
      | some (.table origin sub) =>
        (descend dotted change path origin sub).map fun (sub, a) =>
          (replace k (.array true (items.dropLast ++ [.table origin sub])) fs, a)
      | _ => none
    | some _ => none

def put (path : List String) (k : String) (v : Value) (fs : Fields) : Option Fields :=
  let change (origin : Origin) (sub : Fields) : Option (Fields × Unit) :=
    if (origin == .dotted) == path.isEmpty then none
    else if (sub.lookup k).isSome then none
    else some (sub ++ [(k, v)], ())
  (descend true change path .header fs).map (·.1)

end Fields

end AccessTrail.Toml
