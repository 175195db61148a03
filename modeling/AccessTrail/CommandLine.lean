namespace AccessTrail.CommandLine

structure Options where
  config : Option String := none
  listen : Option String := none
  deriving DecidableEq

inductive Request
  | run : Options → Request
  | help
  | misuse
  deriving DecidableEq

inductive Flag
  | config
  | listen
  deriving DecidableEq

def Flag.ofName? : String → Option Flag
  | "config" => some config
  | "listen" => some listen
  | _ => none

def Flag.ofLetter? : Char → Option Flag
  | 'c' => some config
  | 'l' => some listen
  | _ => none

def Options.set? (o : Options) (value : String) : Flag → Option Options
  | .config =>
    if o.config.isSome || value.isEmpty then none else some { o with config := some value }
  | .listen => if o.listen.isSome then none else some { o with listen := some value }

inductive Effect
  | value : Flag → String → Effect
  | expect : Flag → Effect
  | help
  | misuse
  deriving DecidableEq

def long (cs : List Char) : Effect :=
  let name := String.ofList (cs.takeWhile (· != '='))
  match Flag.ofName? name, cs.dropWhile (· != '=') with
  | some f, _ :: value => .value f (String.ofList value)
  | some f, [] => .expect f
  | none, [] => if name = "help" then .help else .misuse
  | none, _ :: _ => .misuse

def short : List Char → Effect
  | [] => .misuse
  | c :: rest =>
    match Flag.ofLetter? c, rest with
    | some f, [] => .expect f
    | some f, '=' :: value => .value f (String.ofList value)
    | some f, value => .value f (String.ofList value)
    | none, _ => if c = 'h' then .help else .misuse

def parseFrom (o : Options) (pending : Option Flag) : List String → Request
  | [] => if pending.isSome then .misuse else .run o
  | a :: rest =>
    match pending, a.toList with
    | none, '-' :: '-' :: cs =>
      if cs.isEmpty then (if rest.isEmpty then .run o else .misuse)
      else
        match long cs with
        | .value f v =>
          match o.set? v f with
          | some o => parseFrom o none rest
          | none => .misuse
        | .expect f => parseFrom o (some f) rest
        | .help => .help
        | .misuse => .misuse
    | none, '-' :: cs =>
      match short cs with
      | .value f v =>
        match o.set? v f with
        | some o => parseFrom o none rest
        | none => .misuse
      | .expect f => parseFrom o (some f) rest
      | .help => .help
      | .misuse => .misuse
    | none, _ => .misuse
    | some _, '-' :: _ :: _ => .misuse
    | some f, _ =>
      match o.set? a f with
      | some o => parseFrom o none rest
      | none => .misuse

def parse (args : List String) : Request := parseFrom {} none args

def usage : String := "Usage: request-logger [OPTIONS]"

def helpLines : List String :=
  ["HTTP server with one access record per request",
   "",
   usage,
   "",
   "Options:",
   "  -c, --config <CONFIG>  Path to a TOML configuration file",
   "  -l, --listen <LISTEN>  Override the listener bind address",
   "  -h, --help             Print help"]

def helpText : String := String.join (helpLines.map (· ++ "\n"))

end AccessTrail.CommandLine
