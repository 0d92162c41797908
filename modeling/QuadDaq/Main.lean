import QuadDaq.Cli.Help
import QuadDaq.Cli.Program

/-!
# The command line

Reads the files that a request names, carries it out and prints. A stream prints as
it goes, at the pace of the clock.
-/

namespace QuadDaq.Main

open Cli

/-- Prints a text on its stream. -/
def print : Print → IO Unit
  | .out text => do
    IO.println text
    (← IO.getStdout).flush
  | .err text => IO.eprintln text

/-- Reads a file. -/
def readFile (path : String) : IO (Except ReadFailure (List UInt8)) := do
  try
    return .ok (← IO.FS.readBinFile path).toList
  catch
    | .noFileOrDirectory .. => return .error .notFound
    | .inappropriateType .. => return .error .isDirectory
    | e => return .error (.other (toString e))

/-- The files that a request names. -/
def filesOf (o : Options) : IO Files := do
  let paths := o.config :: o.calibration.toList
  let contents ← paths.mapM fun path => return (path, ← readFile path)
  return fun path => (contents.lookup path).getD (.error .notFound)

/-- The environment variables that the program knows for tests. -/
def environment : IO (List (String × String)) := do
  let names := ["TIMESWIPE_TEST_SIM_FAULTS", "TIMESWIPE_TEST_SIM_STUCK"]
  let values ← names.mapM fun name => return (name, ← IO.getEnv name)
  return values.filterMap fun (name, value) => value.map (name, ·)

/-- The exit code of a program that ends like this. -/
def exitCode : Ending → UInt32
  | .exit code => code.toUInt32
  | .aborted => 101

/-- Prints a report. -/
def conclude (r : Report) : IO UInt32 := do
  r.prints.forM print
  return exitCode r.ending

/-- Runs a stream to its end. -/
def stream (s : Streaming) : IO UInt32 := do
  let mut s := s
  for _ in [0 : s.pollCount] do
    IO.sleep 20
    let (next, prints) := s.poll
    prints.forM print
    s := next
  conclude (concluded s.json s.finish)

/-- Carries out the request that the words are. -/
def carryOut (words : List String) : IO UInt32 := do
  match parseWords words with
  | .error diversion => conclude diversion.report
  | .ok request =>
    let surroundings :=
      Surroundings.of (← filesOf request.options) (← environment) (← IO.getEnv "RUST_LOG")
    match startRequest surroundings request with
    | .finished report => conclude report
    | .streaming s => stream s

end QuadDaq.Main

/-- The program. -/
def main (words : List String) : IO UInt32 := QuadDaq.Main.carryOut words
