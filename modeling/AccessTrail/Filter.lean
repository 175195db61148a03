import AccessTrail.Filter.Directive
import AccessTrail.Notice
import AccessTrail.Text.Pieces

namespace AccessTrail

def Level.detail : Level → Nat
  | error => 1
  | warn => 2
  | info => 3
  | debug => 4
  | trace => 5

def Notice.fieldNames (n : Notice) : List String := "message" :: (n.fields "").map (·.1)

namespace Filter

namespace Directive

def fits (n : Notice) (d : Directive) : Bool :=
  !d.spanned && d.target.isPrefixOf n.target.toList &&
    d.field.all fun name => n.fieldNames.contains (String.ofList name)

/-- Whether the first directive goes before the second where both fit. One of them comes later, and
goes before its equal; of two fields the later one in the alphabet goes first. -/
def outranks (later earlier : Directive) : Bool :=
  earlier.target.length < later.target.length ||
    later.target.length == earlier.target.length &&
      match earlier.field, later.field with
      | none, _ => true
      | some _, none => false
      | some a, some b => !decide (b < a)

end Directive

def parts (s : String) : List (List Char) := (Text.pieces ',' s.toList).filter (!·.isEmpty)

end Filter

structure Filter where
  directives : List Filter.Directive := []
  deriving DecidableEq

namespace Filter

structure Choice where
  remarks : List String := []
  filter : Option Filter

def parse (s : String) : Except Flaw Filter := return ⟨← (parts s).mapM Directive.read⟩

def remark (part : List Char) (f : Flaw) : String :=
  "ignoring " ++ Text.tick (String.ofList part) ++ ": " ++ f.text

def collect : List (List Char) → List Directive → Choice
  | [], ds => { filter := some ⟨ds⟩ }
  | p :: ps, ds =>
    match Directive.read p with
    | .ok d => collect ps (ds ++ [d])
    | .error .torn => { filter := none }
    | .error f =>
      let c := collect ps ds
      { c with remarks := remark p f :: c.remarks }

def parseLoosely (s : String) : Choice := collect (parts s) []

def ofLevel (level : String) : Choice :=
  parseLoosely ("request_logger=" ++ level ++ ",tower_http=" ++ level)

def choose (environment : Option String) (level : String) : Choice :=
  match environment.map parse with
  | some (.ok f) => { filter := some f }
  | some (.error .torn) => { filter := none }
  | some (.error _) | none => ofLevel level

def deciding? (f : Filter) (n : Notice) : Option Directive :=
  (f.directives.filter (·.fits n)).foldl (fun best d =>
    match best with
    | some b => if d.outranks b then some d else some b
    | none => some d) none

def detailFor (f : Filter) (n : Notice) : Nat :=
  match f.deciding? n with
  | some d => d.detail
  | none => if f.directives.isEmpty then Level.error.detail else 0

def shows (f : Filter) (n : Notice) : Bool := n.level.detail ≤ f.detailFor n

end Filter

end AccessTrail
