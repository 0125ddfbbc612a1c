import DeliveryGate.Command.Program
import Std.Time.DateTime.Timestamp

/-!
# The command line

Reads the arguments, the variables, the file and the clock, and writes the report of
`Command.Program`. Variables also come from a file `.env` in this directory or the nearest one above
it.
-/

namespace DeliveryGate

namespace Main

/-- The content of a file, if it can be read. -/
def content? (name : String) : IO (Option ByteArray) := do
  try
    return some (← IO.FS.readBinFile name)
  catch _ =>
    return none

/-- The assignments of the nearest file of variables at most this many directories above. -/
def assignments : Nat → String → IO (List Command.Assignment)
  | 0, _ => return []
  | depth + 1, directory => do
    match ← content? (directory ++ ".env") with
    | some content => return Command.Assignment.ofText ((String.fromUTF8? content).getD "")
    | none => assignments depth (directory ++ "../")

/-- The variables of the process among these names. -/
def variablesAmong (names : List String) : IO (List (String × String)) :=
  names.filterMapM fun name => do
    return (← IO.getEnv name).map fun value => (name, value)

/-- The current time. -/
def now : IO Instant := do
  let time := (← Std.Time.Timestamp.now).toNanosecondsSinceUnixEpoch.val
  return ⟨time / Instant.second, (time % Instant.second).toNat⟩

end Main

end DeliveryGate

open DeliveryGate in
def main (arguments : List String) : IO UInt32 := do
  let assignments ← Main.assignments 64 ""
  let names := Settings.names ++ assignments.flatMap Command.Assignment.names
  let env := Command.Assignment.assignAll (← Main.variablesAmong names) assignments
  let invocation := Command.Invocation.ofArguments arguments
  let content ← match invocation.file? with
    | some file => Main.content? file
    | none => pure none
  let report := invocation.report env content (← Main.now)
  (← IO.getStdout).putStr report.output
  match report.error with
  | some text => IO.eprintln ("Error: " ++ text)
  | none => pure ()
  return report.exitCode.toUInt32
