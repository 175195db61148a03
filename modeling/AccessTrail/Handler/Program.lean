import AccessTrail.Exchange

namespace AccessTrail

inductive Command
  | write : Bytes → Command
  | writeAll : Bytes → Command
  | flush
  | close
  | sendHead : Http.Status → Command
  | edit : (Http.Headers → Http.Headers) → Command
  | record : Entry → Command
  | fail : Http.Status → Failure → Command
  | handOver
  | offers
  | sendRaw : Bytes → Command
  | headers
  | tally
  | note : Notice → Command
  | yield
  | stall

inductive Program
  | done
  | crash : (message : String) → Program
  | step : Command → (Reply → Program) → Program

def Program.sequence (commands : List Command) (last : Program) : Program :=
  commands.foldr (fun c p => .step c fun _ => p) last

abbrev Handler := Http.Request → Program

end AccessTrail
