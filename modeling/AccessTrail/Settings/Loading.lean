import AccessTrail.Files.Tree
import AccessTrail.Settings.Flaw
import AccessTrail.Settings.Reading
import AccessTrail.Toml.Document

namespace AccessTrail.Settings

inductive LoadError
  | unreadable : Fault → LoadError
  | malformed
  | mismatch : Mismatch → LoadError
  | flawed : List Flaw → LoadError

namespace LoadError

def notText : Fault := .fixed .invalidData "stream did not contain valid UTF-8"

def problem : LoadError → String
  | unreadable f => f.text
  | malformed => "TOML parse error"
  | mismatch m => m.text
  | flawed fs => Flaw.summary fs

def failure (e : LoadError) : Failure :=
  match e with
  | unreadable f => ⟨"IO error: " ++ f.text, [f.text]⟩
  | malformed | mismatch _ => ⟨"Parse error: " ++ e.problem, [e.problem]⟩
  | flawed fs => ⟨Flaw.summary fs, []⟩

end LoadError

def ofBytes (bs : Bytes) : Except LoadError Settings :=
  match Utf8.text? bs with
  | none => .error (.unreadable LoadError.notText)
  | some cs =>
    match Toml.parse? cs with
    | none => .error .malformed
    | some fs =>
      match ofFields fs with
      | .error m => .error (.mismatch m)
      | .ok s =>
        match s.flaws with
        | [] => .ok s
        | flaws => .error (.flawed flaws)

def load (fs : Files) (path : String) : Except LoadError Settings :=
  match fs.read path.toList with
  | .ok bs => ofBytes bs
  | .error f => .error (.unreadable f)

end AccessTrail.Settings
