import Flowgraph.CommandLine.Session
import Std.Time.DateTime.Timestamp

/-! The command line program: it reads the files that the arguments name, and prints what the
session says. -/

namespace Flowgraph.CommandLine

/-- The text of a file, if it can be read. -/
def contents (path : String) : IO (List (String × String)) := do
  try return [(path, ← IO.FS.readFile path)]
  catch _ => return []

def currentTime : IO Instant := do
  return ⟨(← Std.Time.Timestamp.now).toNanosecondsSinceUnixEpoch.val, false⟩

def freshId : IO Uuid := do return .random ((← IO.getRandomBytes 16).foldl (fun n b => 256 * n + b.toNat) 0)

def pathsOf (database : Option String) (args : List String) : List String :=
  match read database args with
  | .ok command => command.paths
  | .error _ => []

def surroundings (args : List String) : IO Surroundings := do
  let database ← IO.getEnv "DATABASE_URL"
  let files ← (pathsOf database args).flatMapM contents
  return ⟨files, database, ← currentTime, ← freshId⟩

end Flowgraph.CommandLine

def main (args : List String) : IO UInt32 := do
  let outcome := Flowgraph.CommandLine.session (← Flowgraph.CommandLine.surroundings args) args
  (← IO.getStdout).putStr outcome.stdout
  (← IO.getStderr).putStr outcome.stderr
  return .ofNat outcome.code
