import Tripwire.Circuit.Creation
import Tripwire.Circuit.Phase
import Tripwire.Circuit.Session
import Tripwire.Main
import Tripwire.Proofs.History
import Tripwire.Proofs.Breaker.Shape
import Tripwire.Proofs.Breaker.Failure
import Tripwire.Proofs.Breaker.Signal
import Tripwire.Proofs.Patience
import Tripwire.Proofs.Breaker.Window
import Tripwire.Proofs.Breaker.Straggler
import Tripwire.Proofs.Quiet
import Tripwire.Proofs.Watchdog.Course
import Tripwire.Proofs.Watchdog.Rest
import Tripwire.Proofs.Lapse
import Tripwire.Proofs.Watchdog.Scan
import Tripwire.Proofs.Breaker.Locks
import Tripwire.Proofs.Punctual
import Tripwire.Proofs.Flat
import Tripwire.Proofs.Watchdog.Cuts
import Tripwire.Proofs.Watchdog.Sensitivity
import Tripwire.Proofs.Watchdog.Past
import Tripwire.Proofs.Breaker.Crowd
import Tripwire.Proofs.Settings.Document
import Tripwire.Proofs.CommandLine.Override
import Tripwire.Proofs.Watchdog.Trip
import Tripwire.Proofs.Watchdog.Namesake
import Tripwire.Proofs.Watchdog.Unbroken
import Tripwire.Proofs.CommandLine.Status
import Tripwire.Proofs.Journal
import Tripwire.Proofs.Record
import Tripwire.Proofs.Breaker.Outcome
import Tripwire.Proofs.Breaker.Gauge
import Tripwire.Proofs.Breaker.Balance
import Tripwire.Proofs.Breaker.Annals
import Tripwire.Proofs.Breaker.Diagnosis
import Tripwire.Proofs.Text.Lossy
import Tripwire.Proofs.Watchdog.Search
import Tripwire.Proofs.Watchdog.Decoding
import Tripwire.Proofs.Breaker.Resets
import Tripwire.Proofs.Text.Delimited
import Tripwire.Proofs.Breaker.Warning
import Tripwire.Proofs.Toml.Tidy
import Tripwire.Proofs.Settings.Reading
import Tripwire.Proofs.Settings.Meaning
import Tripwire.Proofs.Settings.Cooldown
