/-
The command line: arguments, environment and file in, log and exit status out.

The input is taken line by line as it arrives, and the time between two arrivals
passes for the breaker before the next line is taken.  Everything that is decided is
decided by `Program`.
-/
import Tripwire.CommandLine.Program

namespace Tripwire.CommandLine

/-- What is found under the name of a file. -/
def readFileAt (path : String) : IO File := do
  try
    return .bytes (← IO.FS.readBinFile path).toList
  catch
    | .inappropriateType .. => return .directory
    | .invalidArgument _ 36 _ => return .unnameable
    | _ => return .missing

/-- Writes the records that are shown, and forgets all events. -/
def flush (p : Program) (c : Watchdog.Course) : IO Watchdog.Course := do
  for record in p.shown c.dog.circuit.events.toList do
    IO.eprintln record.line
  return c.onCircuit fun circuit => { circuit with events := #[] }

/-- The bytes up to and including the next newline, or up to the end of the input. -/
partial def readLine (input : IO.FS.Stream) (line : ByteArray) : IO ByteArray := do
  let byte ← input.read 1
  let line := line ++ byte
  if byte.isEmpty || byte.toList = [Watchdog.newline] then return line else readLine input line

/-- Takes what arrives until the watch is over. -/
partial def watch (p : Program) (input : IO.FS.Stream) (last : Nat) (c : Watchdog.Course) :
    IO Nat := do
  let c ← flush p c
  let bytes ← readLine input .empty
  let time ← IO.monoMsNow
  let (c, _) := c.take true (.sleep (time - last))
  let (c, ending) :=
    if bytes.isEmpty then c.takeEnd else c.take true (.data bytes.toList)
  match ending with
  | none => watch p input time c
  | some ending =>
      let (c, result) := c.conclude ending
      let _ ← flush p c
      return Program.status result

/-- Watches with the settings that the options ask for. -/
def follow (options : Options) : IO Nat := do
  let file ←
    match options.config with
    | some path => readFileAt path
    | none => pure .missing
  match options.resolve fun _ => file with
  | .error e =>
      for message in (Outcome.ofError e).messages do
        IO.eprintln message
      return (Outcome.ofError e).status
  | .ok settings =>
      let program := Program.ofSettings (← IO.getEnv "RUST_LOG") settings
      for remark in program.remarks do
        IO.eprintln remark
      for record in program.shown [.record program.opening] do
        IO.eprintln record.line
      watch program (← IO.getStdin) (← IO.monoMsNow)
        (program.watchdog.start { items := [], heedsInterrupt := true })

end Tripwire.CommandLine

open Tripwire.CommandLine

/-- The program. -/
def main (args : List String) : IO UInt32 := do
  match Options.parse args with
  | .ok options => return (← follow options).toUInt32
  | .error stop =>
      let outcome := Outcome.ofStop stop
      for line in outcome.output do
        IO.println line
      for message in outcome.messages do
        IO.eprintln message
      return outcome.status.toUInt32
