import Flowgraph.CommandLine.Help
import Flowgraph.Effect.Rehearsal
import Flowgraph.Engine.Memory
import Flowgraph.Http.Transport
import Flowgraph.Store.Address
import Flowgraph.Text.Quoted

/-! What the program does for its arguments: check an automation, or run one with everything in
memory and report it. Messages are kept and not sent, and nothing is reachable over the network. -/

namespace Flowgraph.CommandLine

structure Outcome where
  code : Nat
  stdout : String
  stderr : String
  deriving DecidableEq, Repr

/-- The files that there are, the database, and the time. -/
structure Surroundings where
  files : List (String × String)
  database : Option String
  now : Instant
  freshId : Uuid

namespace Outcome

def printed (text : String) : Outcome := ⟨0, text, ""⟩
def failed (message : String) : Outcome := ⟨1, "", message ++ "\n"⟩
def misused : Outcome := ⟨2, "", ""⟩
def aborted : Outcome := ⟨101, "", ""⟩

end Outcome

open Json.Reader (Wanted)

/-- Whether a path starts at the root, and the names on it; an empty step and a point stay where they are. -/
def route (path : String) : Bool × List String :=
  (path.startsWith "/", (path.splitOn "/").filter fun step => step != "" && step != ".")

/-- Whether a path can lead to a file: its last step has to be a name. -/
def endsInName (path : String) : Bool := ((path.splitOn "/").getLast?).any fun step => step != "" && step != "."

/-- The text of the file that a path leads to. -/
def Surroundings.file? (s : Surroundings) (path : String) : Option String :=
  if endsInName path then (s.files.find? fun (name, _) => route name == route path).map (·.2) else none

def readDocument (s : Surroundings) (path : String) (wanted : Wanted) (decoder : Decode.Decoder α) : Except String α :=
  match s.file? path with
  | none => .error s!"Error: cannot read file {path}"
  | some text => match (Json.Reader.part? wanted text).map (decoder .direct) with
    | some (.ok value) => .ok value
    | _ => .error s!"Error: invalid JSON in {path}"

/-- The fields of a record, whatever else its object has. -/
def fieldsOf (record : Decode.Record α) : Wanted := .fields (record.names.map (·, .all))

def readDefinition (s : Surroundings) (path : String) : Except String Definition :=
  readDocument s path (fieldsOf (Definition.record s.freshId s.now)) (Definition.decoder s.freshId s.now)

def validate (s : Surroundings) (path : String) : Except String Outcome := do
  let d ← readDefinition s path
  match Validation.validate d.nodes with
  | .ok order => return .printed s!"✅ Automation is valid. Topological order: {Text.quotedList order}\n"
  | .error fault => throw s!"❌ Validation failed: {fault.message}"

def fixture : Decode.Decoder Script :=
  Decode.Record.decoder ((fun contacts lists => ({ Script.plain with contacts, lists } : Script)) <$>
    Decode.Record.defaulted "contacts" [] (Decode.list Contact.decoder) <*>
    Decode.Record.defaulted "lists" [] (Decode.list ContactList.decoder)) "struct ContactFixture"

def fixtureParts : Wanted :=
  .fields [("contacts", .items (fieldsOf Contact.record)), ("lists", .items (fieldsOf ContactList.record))]

def readScript (s : Surroundings) (path : Option String) : Except String Script :=
  match path with
  | some path => readDocument s path fixtureParts fixture
  | none => return .plain

/-- A rehearsal whose requests go to the network, where there is nobody. -/
def outside : Outside Rehearsal
  | .http request, r => (Transport.offline request, r)
  | call, r => Rehearsal.outside call r

abbrev World := Engine Rehearsal

def config : EngineConfig := ⟨256, 10, .live⟩

/-- The earliest time at which a pending job is due. -/
def nextDue? (q : DelayQueue) : Option Instant := Instant.earliestBy id (q.pending.map (·.runAt))

/-- Resumes jobs until none is due, at most `n`. -/
def workOff (outside : Outside κ) (config : EngineConfig) : Nat → Act (Engine κ) QueueFault Unit
  | 0 => return
  | n + 1 => do
    match ← Engine.workOnce outside config .standard with
    | some _ => workOff outside config n
    | none => return

/-- Moves the clock from job to job until none is pending, at most `n` times. -/
def fastForward (outside : Outside κ) (config : EngineConfig) : Nat → Act (Engine κ) QueueFault Unit
  | 0 => return
  | n + 1 => do
    let q := (← get).queue
    match nextDue? q with
    | none => return
    | some due =>
      Engine.onQueue (DelayQueue.advance (due.nanos - q.now.nanos).toNat)
      workOff outside config (n + 1)
      fastForward outside config n

/-- The most rounds of a session; a run that keeps delaying itself would go on for ever. -/
def patience : Nat := 1000000

def report (w : World) (id : String) : Json := .object (Fields.ofList [
  ("execution", ((w.record? id).map RunRecord.json).getD .null),
  ("emails", .array (w.outside.emails.map EmailMessage.json)),
  ("whatsapp", .array (w.outside.whatsApp.map WhatsAppMessage.json)),
  ("pendingContinuations", .ofNat w.queue.pending.length)])

/-- The id of a run that has been tried, also of one that failed. -/
def runId (result : Except (Failure EngineFault) String) (w : Engine κ) : String :=
  match result with
  | .ok id => id
  | .error _ => ((w.records.map (·.executionId)).head?).getD ""

def run (s : Surroundings) (o : RunOptions) : Except String Outcome := do
  let d ← readDefinition s o.path
  let payload ← match o.data with
    | some path => readDocument s path .all Decode.any
    | none => pure (.object [])
  let script ← readScript s o.contacts
  let start : World := Engine.putAutomation d (Engine.start (Rehearsal.start script) s.now)
  let (result, w) := Execution.execute (Engine.backend outside) config d payload o.executionId start
  if let .error .overflow := result then return .aborted
  let (ended, final) := if o.fastForward then fastForward outside config patience w else (.ok (), w)
  match ended with
  | .ok _ => return .printed ((report final (runId result w)).indented 0 ++ "\n")
  | .error .overflow => return .aborted
  | .error (.cause e) => throw s!"Error: {e.message}"

/-- A command that needs a database, of which none can be reached. -/
def onDatabase (url : String) : Except String Outcome :=
  match DatabaseAddress.fault? url with
  | some fault => throw s!"Error: {fault.message}"
  | none => throw "Error: sqlx error: error communicating with database"

def perform (s : Surroundings) : Command → Except String Outcome
  | .validate path => validate s path
  | .run options => run s options
  | .worker options => onDatabase options.databaseUrl
  | .migrate url => onDatabase url

def Command.paths : Command → List String
  | .validate path => [path]
  | .run o => o.path :: (o.data.toList ++ o.contacts.toList)
  | _ => []

def session (s : Surroundings) (args : List String) : Outcome :=
  match read s.database args with
  | .error (.help topic) => .printed topic.text
  | .error .version => .printed versionText
  | .error .misuse => .misused
  | .ok command => match perform s command with
    | .ok outcome => outcome
    | .error message => .failed message

end Flowgraph.CommandLine
