import Starchart.Diagnostic
import Starchart.Star

/-!
# The journal of a run

Everything worth telling about a run, in order: its diagnostics, and the smaller events that only a
detailed log shows.  A log line names the severity, the part of the generator that speaks, and the
event.

## Main definitions

* `Starchart.Event` — one entry of the journal.
* `Starchart.Event.logLine` — the entry as a log shows it.
* `Starchart.Journal.diagnostics` — the diagnostics of a run.
* `Starchart.Journal.log` — the log lines at or above a level.
-/

set_option autoImplicit false

namespace Starchart

/-- How important a log line is. -/
inductive LogLevel where
  | notset
  | debug
  | info
  | warning
  | error
  | critical
  deriving DecidableEq, Repr, Inhabited

/-- The number of a level; lines are shown when theirs is not below the chosen one. -/
def LogLevel.number : LogLevel → Nat
  | notset => 0
  | debug => 10
  | info => 20
  | warning => 30
  | error => 40
  | critical => 50

/-- The label of a level at the head of a log line. -/
def LogLevel.label : LogLevel → String
  | notset => "NOTSET"
  | debug => "DEBUG"
  | info => "INFO"
  | warning => "WARNING"
  | error => "ERROR"
  | critical => "CRITICAL"

/-- An entry of the journal. -/
inductive Event where
  /-- A diagnostic was recorded. -/
  | diagnosed (d : Diagnostic)
  /-- A satellite orbit was found taken. -/
  | orbitTaken (orbit : Int)
  /-- Orbits were seeded to stay empty. -/
  | emptiesSeeded (star : String) (count : Nat)
  /-- The primary star was rolled. -/
  | primaryRolled (star : Star) (orbits : Int) (stars : Nat)
  /-- A companion found its orbit decided and moved far out. -/
  | companionDisplaced (orbit : Int) (parent : String) (companion : Star)
  /-- A companion star was added. -/
  | companionAdded (name : String) (star : Star) (orbit : Int) (parent : String)
  /-- The bodies around the stars are about to be generated. -/
  | generating (star : String) (world : String) (profile : String) (seed : Int)
  /-- A run has ended. -/
  | seedUsed (seed : Int)

namespace Event

/-- How important an event is. -/
def level : Event → LogLevel
  | diagnosed d => match d.severity with
    | .info => .info
    | .warning => .warning
  | generating .. | seedUsed _ => .info
  | _ => .debug

/-- The part of the generator that an event comes from. -/
def channel : Event → String
  | diagnosed _ => "worldgen.diagnostics"
  | orbitTaken _ => "worldgen.models.satellites"
  | emptiesSeeded .. => "worldgen.models.population"
  | primaryRolled .. | companionDisplaced .. | companionAdded .. => "worldgen.models.stellar"
  | generating .. => "worldgen.models.generator"
  | seedUsed _ => "worldgen.cli"

/-- The wording of an event. -/
def message : Event → String
  | diagnosed d => "[" ++ d.category.code ++ "] " ++ d.message
  | orbitTaken orbit => s!"Satellite orbit {orbit} taken, bumping"
  | emptiesSeeded star count => s!"{star}: {count} empty orbit(s) seeded"
  | primaryRolled star orbits stars =>
    s!"Primary {star.text} with {orbits} orbits, {stars} star(s)"
  | companionDisplaced orbit parent companion =>
    s!"Orbit {orbit} of {parent} is unavailable; companion {companion.text} moves to a far orbit"
  | companionAdded name star orbit parent =>
    s!"Companion {name} ({star.text}) at orbit {orbit} of {parent}"
  | generating star world profile seed =>
    s!"Generating {star} around {world} ({profile}), seed {seed}"
  | seedUsed seed => s!"Seed {seed}"

/-- An event as a log shows it. -/
def logLine (e : Event) : String :=
  e.level.label ++ " " ++ e.channel ++ ": " ++ e.message

/-- The diagnostic that an event records, if it records one. -/
def diagnostic? : Event → Option Diagnostic
  | diagnosed d => some d
  | _ => none

end Event

/-- The events of a run, in order. -/
abbrev Journal := List Event

namespace Journal

/-- The diagnostics of a run, in order. -/
def diagnostics (j : Journal) : List Diagnostic :=
  j.filterMap Event.diagnostic?

/-- The log lines at or above a level number. -/
def log (j : Journal) (level : Nat) : List String :=
  (j.filter fun e => decide (level ≤ e.level.number)).map Event.logLine

end Journal

end Starchart
