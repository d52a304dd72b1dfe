import Std.Time.DateTime.Timestamp
import Throttle.CommandLine

/-!
# The program

Reads files, the environment and the clock, and prints.
-/

namespace Throttle.Program

/-- The file at a path. A path that cannot be read holds no file. -/
def readFile (path : String) : IO PolicyFile := do
  try
    return some (← IO.FS.readBinFile path).toList
  catch _ => return none

def readVariables : IO (List (String × String)) := do
  let some bytes ← readFile "/proc/self/environ" | return []
  let .ok text := Text.decode bytes | return []
  return (text.splitOn "\x00").filterMap fun entry =>
    match entry.splitOn "=" with
    | name :: value => some (name, "=".intercalate value)
    | [] => none

/-- The seconds since the beginning of 1970. -/
def readClock : IO Float := do
  let now ← Std.Time.Timestamp.now
  return Float.ofInt now.toNanosecondsSinceUnixEpoch.val / 1e9

def helpLines : List String := [
  "Admission-control and rate-limiting engine",
  "",
  "Usage: tollgate [OPTIONS] <COMMAND>",
  "",
  "Commands:",
  "  validate  Check a policy file and print what it declares",
  "  serve     Serve the management protocol on stdin/stdout",
  "  help      Print this message or the help of the given subcommand(s)",
  "",
  "Options:",
  "  -c, --config <CONFIG>  Service configuration file (YAML)",
  "  -h, --help             Print help",
  "  -V, --version          Print version"]

/-- Read the policies again, if it is time to and they can be read. -/
def reloadDue (s : CommandLine.Serving) (r : Reloader) : IO (CommandLine.Serving × Reloader) := do
  let (r, due) := r.advance (← IO.monoMsNow)
  let some path := s.policies | return (s, r)
  if !due then return (s, r)
  let (_, engine) := s.service.engine.load (Catalog.ofFile (← readFile path))
  return ({ s with service := { s.service with engine } }, r)

/-- The next line with its line feed. -/
partial def readLine (stream : IO.FS.Stream) (line : ByteArray) : IO ByteArray := do
  let byte ← stream.read 1
  if byte.isEmpty then return line
  let line := line ++ byte
  if byte.get! 0 = 10 then return line else readLine stream line

partial def serve (input output : IO.FS.Stream) (s : CommandLine.Serving) (r : Option Reloader) : IO UInt32 := do
  let line ← readLine input .empty
  if line.isEmpty then return 0
  let (s, r) ← match r with
    | some r => do
      let (s, r) ← reloadDue s r
      pure (s, some r)
    | none => pure (s, none)
  let served := s.service.serve (← readClock) line.toList
  for answer in served.answers do
    output.putStrLn answer
    output.flush
  match served.failure with
  | some e =>
    (← IO.getStderr).putStrLn s!"Error: {e.message}"
    return 1
  | none => serve input output { s with service := served.service } r

end Throttle.Program

open Throttle Program in
def main (args : List String) : IO UInt32 := do
  let output ← IO.getStdout
  match ← CommandLine.plan ⟨readVariables, readFile⟩ args with
  | .print lines =>
    for line in lines do output.putStrLn line
    return 0
  | .printHelp =>
    for line in helpLines do output.putStrLn line
    return 0
  | .refuse =>
    (← IO.getStderr).putStrLn "error: the arguments cannot be understood; try --help"
    return 2
  | .fail message =>
    (← IO.getStderr).putStrLn s!"Error: {message}"
    return 1
  | .serve s =>
    let start := Reloader.start? (s.reloadInterval.toNat * 1000) (← IO.monoMsNow)
    serve (← IO.getStdin) output s (if s.policies.isSome then start else none)
