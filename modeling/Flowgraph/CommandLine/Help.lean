import Flowgraph.CommandLine.Arguments

/-! The texts that explain the use of the program. -/

namespace Flowgraph.CommandLine

def programName : String := "automation-engine"
def versionText : String := programName ++ " 0.1.0\n"

/-- An option or an argument as it is written, and what it is for. -/
abbrev Row := String × String

private def widest (rows : List Row) : Nat := rows.foldl (fun n r => max n r.1.length) 0

private def spaces (n : Nat) : String := String.ofList (List.replicate n ' ')

/-- Explanations in a column of their own. -/
def columns (rows : List Row) : String :=
  String.join (rows.map fun (left, right) => "  " ++ left ++ spaces (widest rows - left.length) ++ "  " ++ right ++ "\n")

/-- Explanations on lines of their own. -/
def stacked (rows : List Row) : String :=
  String.join (rows.map fun (left, right) => "  " ++ left ++ "\n" ++ spaces 10 ++ right ++ "\n")

def page (about usage : String) (sections : List (String × String)) : String :=
  about ++ "\n\nUsage: " ++ programName ++ " " ++ usage ++ "\n" ++
    String.join (sections.map fun (title, body) => "\n" ++ title ++ ":\n" ++ body)

def jsonRow : Row := ("    --json", "Emit logs as JSON lines")
def helpRow : Row := ("-h, --help", "Print help")
def pathRow : Row := ("<PATH>", "Path to the automation JSON file")
def contactsRow : Row := ("    --contacts <CONTACTS>", "JSON file with `contacts` and `lists` for contact nodes")
def helpAbout : String := "Print this message or the help of the given subcommand(s)"
def databaseRow : Row := ("    --database-url <DATABASE_URL>", "[env: DATABASE_URL=]")

def Topic.text : Topic → String
  | .program => page "Node-graph automation execution engine" "[OPTIONS] <COMMAND>" [
      ("Commands", columns [("validate", "Validate an automation definition JSON file"),
        ("run", "Execute an automation locally against a payload"),
        ("worker", "Start a worker that resumes delayed runs from the Postgres queue"),
        ("migrate", "Run pending database migrations"),
        ("help", helpAbout)]),
      ("Options", columns [jsonRow, helpRow, ("-V, --version", "Print version")])]
  | .validate => page "Validate an automation definition JSON file" "validate [OPTIONS] <PATH>" [
      ("Arguments", columns [pathRow]), ("Options", columns [jsonRow, helpRow])]
  | .run => page "Execute an automation locally against a payload" "run [OPTIONS] <PATH>" [
      ("Arguments", columns [pathRow]),
      ("Options", stacked [("    --data <DATA>", "JSON file with the triggering payload"), jsonRow, contactsRow,
        ("    --execution-id <EXECUTION_ID>", "Run as a manual invocation with this execution id"),
        ("    --fast-forward", "Fire delayed continuations immediately instead of stopping at them"), helpRow])]
  | .worker => page "Start a worker that resumes delayed runs from the Postgres queue"
      "worker [OPTIONS] --database-url <DATABASE_URL>" [
      ("Options", stacked [databaseRow, jsonRow, contactsRow,
        ("    --poll-interval-ms <POLL_INTERVAL_MS>", "[default: 1000]"),
        ("    --max-attempts <MAX_ATTEMPTS>", "[default: 3]"),
        ("    --lease-secs <LEASE_SECS>", "Seconds a claimed job stays exclusive before it is reclaimed [default: 300]"),
        ("    --retry-backoff-secs <RETRY_BACKOFF_SECS>",
          "Base retry delay in seconds, multiplied by the attempt count [default: 30]"),
        ("    --max-connections <MAX_CONNECTIONS>", "[default: 10]"), helpRow])]
  | .migrate => page "Run pending database migrations" "migrate [OPTIONS] --database-url <DATABASE_URL>" [
      ("Options", columns [databaseRow, jsonRow, helpRow])]
  | .help => page helpAbout "help [COMMAND]..." [
      ("Arguments", columns [("[COMMAND]...", "Print help for the subcommand(s)")])]

end Flowgraph.CommandLine
