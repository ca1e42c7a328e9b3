/-
Watching input.

Each line that the pattern picks is reported to the breaker.  After each report the
watch looks at the signal of the cycle it began last: if that has fired, the watch
is over, or it begins another cycle if it is to be armed again.  Nobody else's
cycles matter to it.  However the watch ends, it leaves the breaker inactive.

A line counts when its newline arrives, or when the input ends behind it; the
beginning of a line is kept until then.  If reading fails it is lost.
-/
import Tripwire.Circuit.Clock
import Tripwire.Watchdog.Line
import Tripwire.Watchdog.Script

namespace Tripwire

/-- A watch over input, with its breaker. -/
structure Watchdog where
  watch : WatchSettings
  circuit : Circuit Empty
  /-- How many tasks will log an interruption by the user. -/
  listeners : Nat := 0

namespace Watchdog

/-- The watch on one line. -/
def text (w : Watchdog) : String :=
  Text.recordLine "Watchdog"
    [("breaker", w.circuit.breaker.text w.circuit.settings), ("watch", w.watch.text)]

/-- Why nothing more is read. -/
inductive Ending where
  | reason (r : Reason)
  | failure (e : ReadError)
  /-- Nothing arrives any more, and nobody will end the watch. -/
  | never

/-- A watch that is going on. -/
structure Course where
  dog : Watchdog
  /-- The beginning of a line. -/
  held : List UInt8 := []
  /-- The cycle that was begun last. -/
  cycle : Nat
  reported : Nat := 0
  trips : Nat := 0

namespace Course

/-- The breaker of the watch. -/
def breaker (c : Course) : Breaker := c.dog.circuit.breaker

/-- Changes the circuit of the watch. -/
def onCircuit (c : Course) (f : Circuit Empty → Circuit Empty) : Course :=
  { c with dog := { c.dog with circuit := f c.dog.circuit } }

/-- Does an operation on the breaker. -/
def operate (c : Course) (op : Operation Empty) : Course :=
  c.onCircuit fun circuit => (circuit.perform op).1

/-- Writes a record to the program's log. -/
def log (c : Course) (level : Level) (message : String) (fields : List (String × FieldValue)) :
    Course :=
  c.onCircuit fun circuit => circuit.record <| .record
    { level, target := "rate_breaker::watchdog", message
      fields := ("breaker", .text circuit.settings.name) :: fields }

/-- Begins a cycle. -/
def activate (c : Course) : Course :=
  let c := c.operate .activate
  { c with cycle := c.breaker.cycle }

/-- What a trip calls for: another cycle, or the end. -/
def onTrip (c : Course) : Course × Option Ending :=
  let settings := c.dog.circuit.settings
  let c := { c with trips := c.trips + 1 }.log .error "Error rate limit reached"
    [("limit", .number settings.limit.toNat), ("cooldown_ms", .number settings.cooldownMs.toNat)]
  if c.dog.watch.rearm then (c.activate, none) else (c, some (.reason .tripped))

/-- Takes a line that is complete. -/
def takeLine (c : Course) (line : List UInt8) : Course × Option Ending :=
  let text := lineText line
  if c.dog.watch.picks text then
    let c := { c with reported := c.reported + 1 }.operate (.addError (.text (String.ofList text)))
    if c.breaker.isTripped c.cycle then c.onTrip else (c, none)
  else (c, none)

/-- Takes several lines, or as many as it gets before the watch is over. -/
def takeLines (c : Course) : List (List UInt8) → Course × Option Ending
  | [] => (c, none)
  | line :: lines =>
      match c.takeLine line with
      | (c, none) => c.takeLines lines
      | (c, some ending) => (c, some ending)

/-- Takes bytes. -/
def takeBytes (c : Course) (bytes : List UInt8) : Course × Option Ending :=
  let (lines, held) := cutLines (c.held ++ bytes)
  { c with held }.takeLines lines

/-- The input ends: what is held is a line, and if nothing is, the watch is over. -/
def takeEnd (c : Course) : Course × Option Ending :=
  if c.held = [] then (c, some (.reason .inputClosed)) else { c with held := [] }.takeLine c.held

/-- All tasks that wait for an interruption log it and are done. -/
def interrupted (c : Course) : Course :=
  let logged := c.onCircuit fun circuit =>
    (List.replicate c.dog.listeners ()).foldl (fun circuit _ => circuit.record <| .record
      { level := .info, target := "rate_breaker::lifecycle::shutdown"
        message := "Interrupt received, shutting down", fields := [] }) circuit
  { logged with dog := { logged.dog with listeners := 0 } }

/-- Something happens; an interruption and a loss matter to the watch only as far as it heeds
interruptions. -/
def take (c : Course) (heedsInterrupt : Bool) : Item → Course × Option Ending
  | .data bytes => c.takeBytes bytes
  | .endOfInput => c.takeEnd
  | .sleep ms => (c.onCircuit fun circuit => circuit.pass ms, none)
  | .failure e => if e.isInterruption then (c, none) else (c, some (.failure e))
  | .shutdown times => (c, some (if times = 0 then .never else .reason .shutdown))
  | .dropShutdown => (c, some (if heedsInterrupt then .never else .reason .shutdown))
  | .interrupt => (c.interrupted, some (if heedsInterrupt then .reason .shutdown else .never))
  | .report text => (c.operate (.addError (.text text)), none)
  | .activate => (c.operate .activate, none)
  | .deactivate => (c.operate .deactivate, none)
  | .glance => (c.onCircuit fun circuit => circuit.record (.glance circuit.breaker.status), none)

/-- Goes through what happens until the watch is over; behind the last item the input has ended. -/
def follow (heedsInterrupt : Bool) (c : Course) : List Item → Course × Ending
  | [] =>
      match c.takeEnd with
      | (c, none) => (c, .reason .inputClosed)
      | (c, some ending) => (c, ending)
  | item :: items =>
      match c.take heedsInterrupt item with
      | (c, none) => c.follow heedsInterrupt items
      | (c, some ending) => (c, ending)

/-- Leaves the breaker inactive and says how the watch has ended. -/
def conclude (c : Course) : Ending → Course × Option (Except ReadError Summary)
  | .never => (c, none)
  | .failure e =>
      ((c.operate .deactivate).log .error "Watchdog input failed" [("error", .text e.message)],
        some (.error e))
  | .reason reason =>
      ((c.operate .deactivate).log .info "Watchdog stopped"
          [("reason", .text reason.name), ("reported", .number c.reported),
            ("trips", .number c.trips)],
        some (.ok { reason, reported := c.reported, trips := c.trips }))

end Course

/-- Begins to watch. -/
def start (w : Watchdog) (script : Script) : Course :=
  let listeners := if script.heedsInterrupt then w.listeners + 1 else w.listeners
  Course.activate { dog := { w with listeners }, cycle := 0 }

/-- Watches to the end, if there is one. -/
def run (w : Watchdog) (script : Script) : Watchdog × Option (Except ReadError Summary) :=
  let course := w.start script
  let (course, ending) :=
    if script.requests = 0 then course.follow script.heedsInterrupt script.items
    else (course, .reason .shutdown)
  let (course, result) := course.conclude ending
  (course.dog, result)

/-- The watch once its events have been looked at. -/
def drained (w : Watchdog) : Watchdog := { w with circuit := { w.circuit with events := #[] } }

end Watchdog

end Tripwire
