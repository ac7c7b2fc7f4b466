import Flowgraph.Number.Literal

/-! The arguments of the program. They are read from left to right: options by their long names, a
value behind an equals sign or as the next argument, each at most once; help is given as soon as it
is asked for. -/

namespace Flowgraph.CommandLine

structure RunOptions where
  path : String
  data : Option String
  contacts : Option String
  executionId : Option String
  fastForward : Bool
  deriving DecidableEq, Repr

structure WorkerOptions where
  databaseUrl : String
  contacts : Option String
  pollIntervalMs : Nat
  maxAttempts : Nat
  leaseSecs : Nat
  retryBackoffSecs : Nat
  maxConnections : Nat
  deriving DecidableEq, Repr

inductive Command where
  | validate (path : String)
  | run (options : RunOptions)
  | worker (options : WorkerOptions)
  | migrate (databaseUrl : String)
  deriving DecidableEq, Repr

inductive Topic where
  | program | validate | run | worker | migrate | help
  deriving DecidableEq, Repr

inductive Stop where
  | help (topic : Topic)
  | version
  | misuse
  deriving DecidableEq, Repr

/-- What an option takes: nothing, or a value that must pass a test. -/
inductive Takes where
  | nothing
  | value (accepts : String → Bool)

/-- The options and the number of other arguments that a command has. -/
structure Spec where
  topic : Topic
  options : List (String × Takes)
  positionals : Nat

/-- The arguments of a command, sorted. -/
structure Sorted where
  options : List (String × String)
  positionals : List String

namespace Sorted

def value? (s : Sorted) (name : String) : Option String := s.options.lookup name
def isSet (s : Sorted) (name : String) : Bool := (s.value? name).isSome

end Sorted

/-- A path is not empty. -/
def isPath (s : String) : Bool := s != ""

/-- A count of 64 bits. -/
def natural64? (s : String) : Option Nat := Literal.toNat? 0x10000000000000000 s

/-- A count of 32 bits; it may be given as minus zero. -/
def natural32? (s : String) : Option Nat :=
  match s.toList with
  | '-' :: ds => if !ds.isEmpty && ds.all (· == '0') then some 0 else none
  | _ => Literal.toNat? 0x100000000 s

def splitEquals (s : List Char) : String × Option String :=
  match s.dropWhile (· != '=') with
  | _ :: value => (.ofList (s.takeWhile (· != '=')), some (.ofList value))
  | [] => (.ofList s, none)

/-- The meaning of an argument that begins with a hyphen. -/
inductive Token where
  | word (text : String)
  | rest
  | long (name : String) (attached : Option String)
  | short (letters : List Char)

def token (arg : String) : Token :=
  match arg.toList with
  | ['-', '-'] => .rest
  | '-' :: '-' :: name => let (name, attached) := splitEquals name; .long name attached
  | '-' :: c :: letters => .short (c :: letters)
  | _ => .word arg

def isWord (arg : String) : Bool :=
  match token arg with
  | .word _ => true
  | _ => false

def addPositional (spec : Spec) (done : Sorted) (arg : String) : Except Stop Sorted :=
  if done.positionals.length < spec.positionals && isPath arg then
    .ok { done with positionals := done.positionals ++ [arg] }
  else .error .misuse

def addOption (done : Sorted) (name value : String) (accepts : String → Bool) : Except Stop Sorted :=
  if !done.isSet name && accepts value then .ok { done with options := done.options ++ [(name, value)] }
  else .error .misuse

def sort (spec : Spec) : Sorted → List String → Except Stop Sorted
  | done, [] => .ok done
  | done, arg :: rest =>
    match token arg with
    | .word text => do sort spec (← addPositional spec done text) rest
    | .rest => rest.foldlM (addPositional spec) done
    | .short letters => .error (if letters.head? = some 'h' then .help spec.topic else .misuse)
    | .long name attached =>
      if name = "help" then .error (if attached.isNone then .help spec.topic else .misuse)
      else match spec.options.lookup name, attached with
        | some .nothing, none => do sort spec (← addOption done name "" fun _ => true) rest
        | some (.value accepts), some value => do sort spec (← addOption done name value accepts) rest
        | some (.value accepts), none => match rest with
          | value :: rest => if isWord value then do sort spec (← addOption done name value accepts) rest else .error .misuse
          | [] => .error .misuse
        | _, _ => .error .misuse

def anyText : Takes := .value fun _ => true
def aPath : Takes := .value isPath
def aNatural64 : Takes := .value fun s => (natural64? s).isSome
def aNatural32 : Takes := .value fun s => (natural32? s).isSome

def validateSpec : Spec := ⟨.validate, [("json", .nothing)], 1⟩

def runSpec : Spec := ⟨.run, [("json", .nothing), ("data", aPath), ("contacts", aPath),
  ("execution-id", anyText), ("fast-forward", .nothing)], 1⟩

def workerSpec : Spec := ⟨.worker, [("json", .nothing), ("database-url", anyText), ("contacts", aPath),
  ("poll-interval-ms", aNatural64), ("max-attempts", aNatural32), ("lease-secs", aNatural64),
  ("retry-backoff-secs", aNatural64), ("max-connections", aNatural32)], 0⟩

def migrateSpec : Spec := ⟨.migrate, [("json", .nothing), ("database-url", anyText)], 0⟩

def needed (value : Option α) : Except Stop α :=
  match value with
  | some a => .ok a
  | none => .error .misuse

/-- The number that an option gives, if it is there. -/
def natural (s : Sorted) (name : String) (read? : String → Option Nat) (default : Nat) : Nat :=
  ((s.value? name).bind read?).getD default

/-- The database to use: the one given, or else the one of the surroundings. -/
def database (s : Sorted) (surroundings : Option String) : Except Stop String :=
  needed (s.value? "database-url" <|> surroundings)

def command (database? : Option String) (name : String) (args : List String) : Except Stop Command := do
  match name with
  | "validate" =>
    let s ← sort validateSpec ⟨[], []⟩ args
    return .validate (← needed s.positionals.head?)
  | "run" =>
    let s ← sort runSpec ⟨[], []⟩ args
    return .run ⟨← needed s.positionals.head?, s.value? "data", s.value? "contacts", s.value? "execution-id",
      s.isSet "fast-forward"⟩
  | "worker" =>
    let s ← sort workerSpec ⟨[], []⟩ args
    return .worker ⟨← database s database?, s.value? "contacts", natural s "poll-interval-ms" natural64? 1000,
      natural s "max-attempts" natural32? 3, natural s "lease-secs" natural64? 300,
      natural s "retry-backoff-secs" natural64? 30, natural s "max-connections" natural32? 10⟩
  | "migrate" => return .migrate (← database (← sort migrateSpec ⟨[], []⟩ args) database?)
  | _ => throw .misuse

def topic? : String → Option Topic
  | "validate" => some .validate
  | "run" => some .run
  | "worker" => some .worker
  | "migrate" => some .migrate
  | "help" => some .help
  | _ => none

def helpTopic : List String → Stop
  | [] => .help .program
  | [name] => match topic? name with
    | some topic => .help topic
    | none => .misuse
  | _ => .misuse

/-- Reads all arguments; `json` says whether the option before the command has been seen. -/
def readFrom (database? : Option String) (json : Bool) : List String → Except Stop Command
  | [] => .error .misuse
  | arg :: rest =>
    match token arg with
    | .word "help" => .error (helpTopic rest)
    | .word name => command database? name rest
    | .rest => .error .misuse
    | .short letters =>
      .error (match letters.head? with
        | some 'h' => .help .program
        | some 'V' => .version
        | _ => .misuse)
    | .long name attached =>
      match name, attached with
      | "json", none => if json then .error .misuse else readFrom database? true rest
      | "help", none => .error (.help .program)
      | "version", none => .error .version
      | _, _ => .error .misuse

def read (database? : Option String) (args : List String) : Except Stop Command := readFrom database? false args

end Flowgraph.CommandLine
