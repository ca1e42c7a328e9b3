/-
The program: it watches its input and ends with status 1 if that trips the breaker.

Settings come from a file, if one is named, and must have nothing wrong in them as
the file gives them; the options then replace some of them, and the outcome is
checked again.  What goes wrong up to here is said in words, and there is no log.
After that the parts of the settings' filter that mean nothing are remarked upon, the
log begins with the settings, the watch begins, and the filter that the environment
or the settings name picks the records that are shown.
-/
import Tripwire.Circuit.Creation
import Tripwire.CommandLine.Options
import Tripwire.Log.Filter
import Tripwire.Settings.Loading
import Tripwire.Text.Lines
import Tripwire.Watchdog.Run

namespace Tripwire.CommandLine

/-- What the program is for. -/
def about : String := "Trip when matching input lines arrive too fast"

/-- The settings, with those replaced that the options give. -/
def Options.override (o : Options) (s : Settings) : Settings :=
  { breaker :=
      { name := o.name.getD s.breaker.name
        limit := o.limit.getD s.breaker.limit
        cooldownMs := o.cooldownMs.getD s.breaker.cooldownMs }
    watch :=
      { pattern := o.pattern.getD s.watch.pattern
        rearm := s.watch.rearm || o.rearm }
    log := { level := o.logLevel.getD s.log.level } }

/-- The settings that the options ask for. -/
def Options.resolve (o : Options) (file : String → File) : Except SettingsError Settings := do
  let settings ←
    match o.config with
    | some path => Settings.load (file path)
    | none => .ok {}
  (o.override settings).checked

/-- The error with all its parts, as far as they are fixed. -/
def errorText : SettingsError → String
  | .file e => "Io(" ++ e.text ++ ")"
  | .notDocument => "Parse"
  | .mismatch _ => "Parse"
  | .problems ps => "Validation(" ++ Problem.listText ps ++ ")"

/-- A program that has its settings. -/
structure Program where
  settings : Settings
  filter : Filter
  /-- What there is to remark about the filter. -/
  remarks : List String := []

/-- What the environment and the settings make of the program. -/
def Program.ofSettings (environment : Option String) (settings : Settings) : Program :=
  let (filter, remarks) := Filter.choose environment settings.log.level
  { settings, filter, remarks }

namespace Program

/-- The first record of the log: the settings. -/
def opening (p : Program) : Record :=
  { level := .info
    target := "rate_breaker"
    message := "Configuration loaded"
    fields :=
      [("breaker", .text p.settings.breaker.name),
       ("limit", .number p.settings.breaker.limit.toNat),
       ("cooldown_ms", .number p.settings.breaker.cooldownMs.toNat),
       ("pattern", .text p.settings.watch.pattern),
       ("rearm", .truth p.settings.watch.rearm)] }

/-- The watch before its beginning. -/
def watchdog (p : Program) : Watchdog :=
  { watch := p.settings.watch, circuit := { settings := p.settings.breaker, sink := .logging } }

/-- The records among some events that are shown. -/
def shown (p : Program) (events : List (Event Empty)) : List Record :=
  events.filterMap fun
    | .record r => if p.filter.passes r then some r else none
    | _ => none

/-- The exit status that a watch comes to. -/
def status : Option (Except Watchdog.ReadError Watchdog.Summary) → Nat
  | some (.ok summary) => if summary.reason = .tripped then 1 else 0
  | some (.error _) => 1
  | none => 0

end Program

/-- What the program is called with, and the input as it arrives. -/
structure Call where
  args : List String
  /-- The filter that the environment names. -/
  filter : Option String := none
  /-- What is found under the name of a file. -/
  file : String → File
  input : List Watchdog.Item

/-- What the program leaves behind. -/
structure Outcome where
  status : Nat
  output : Option String := none
  /-- What is written beside the output: what went wrong, or the remarks and the log. -/
  messages : List String := []

/-- The lines beside the output. -/
def Outcome.lines (o : Outcome) : List String := o.messages.flatMap Text.lines

/-- The outcome of a command line that is not followed. -/
def Outcome.ofStop : Stop → Outcome
  | .help => { status := 0, output := some about }
  | .error e => { status := 2, messages := ["error: " ++ e.message] }

/-- The outcome without settings. -/
def Outcome.ofError (e : SettingsError) : Outcome :=
  { status := 1, messages := ["Error: " ++ errorText e] }

/-- The outcome of a program that watches its input. -/
def Program.run (p : Program) (input : List Watchdog.Item) : Outcome :=
  let (dog, result) := p.watchdog.run { items := input, heedsInterrupt := true }
  { status := status result
    messages := p.remarks
      ++ (p.shown (.record p.opening :: dog.circuit.events.toList)).map Record.line }

/-- The outcome of a call. -/
def Call.outcome (c : Call) : Outcome :=
  match Options.parse c.args with
  | .error stop => .ofStop stop
  | .ok options =>
      match options.resolve c.file with
      | .error e => .ofError e
      | .ok settings => (Program.ofSettings c.filter settings).run c.input

end Tripwire.CommandLine
