import Starchart.CommandLine.Arguments
import Starchart.Generator
import Starchart.Random.Twister
import Starchart.Report
import Starchart.Settings

/-!
# Running a command line

Generates and lists one star system, as the command line and the settings ask for.

The name and the profile text of the main world come from outside, so half of a surrogate pair may
stand in them.  The generator carries a name along and never looks at it, and a half in a profile is
no digit; so the system is generated with the replacement character in the place of halves.  What is
printed is written as UTF-8, in which no half has a form: a listing that would show one is not printed.
Complaints are written in the same way, but there a half is told by its number.

## Main definitions

* `Starchart.CommandLine.Obstacle` — what a run cannot go on with.
* `Starchart.CommandLine.Outcome` — what a command line brings about.
* `Starchart.CommandLine.listedTexts` — the texts from outside that a listing shows.
* `Starchart.CommandLine.answer` — the outcome of a command line, under either custom.
* `Starchart.CommandLine.run` — the outcome where the divider after an equals sign is dropped.
-/

set_option autoImplicit false

namespace Starchart.CommandLine

/-- The name and version of the program. -/
def versionText : String := "Traveller Worldgen 0.4.0"

/-- How the program is used, line by line. -/
def helpLines : List String :=
  ["usage: worldgen [-h] [--name NAME] [--upp UPP] [--seed SEED] [--show-empty]",
   "                [--verbose] [--version]",
   "",
   "Generate a Traveller star system around a main world.",
   "",
   "options:",
   "  -h, --help    show this help message and exit",
   "  --name NAME   Name of the main world.",
   "  --upp UPP     UPP of the main world, e.g. A788899-A.",
   "  --seed SEED   Random seed for a reproducible system.",
   "  --show-empty  List orbits that were rolled to stay empty.",
   "  --verbose     Log generation decisions.",
   "  --version     show program's version number and exit"]

/-- Lines with a line end after each. -/
def unlines (lines : List String) : String :=
  String.join (lines.map (· ++ "\n"))

/-- What a run cannot go on with. -/
inductive Obstacle where
  /-- The settings do not keep a limit. -/
  | settings (limit : Json.Overrun)
  /-- A seed was asked for and given no value. -/
  | noSeed
  /-- A name was asked for and given no value, so that the listing cannot show it. -/
  | noName
  /-- The listing shows half of a surrogate pair, so that it cannot be printed. -/
  | unprintable
  deriving DecidableEq, Repr, Inhabited

/-- The wording of an obstacle.  Of a listing that cannot be printed it tells the reason, not the
place. -/
def Obstacle.message : Obstacle → String
  | settings limit => limit.message
  | noSeed => "The only supported seed types are: None,\nint, float, str, bytes, and bytearray."
  | noName => "unsupported format string passed to list.__format__"
  | unprintable => "surrogates not allowed"

/-- What a command line brings about. Of a run that is broken off the cause is told, and no listing
is shown. -/
inductive Outcome where
  /-- The command line was answered, or refused, without a run. -/
  | exits (code : Nat) (out : String)
  /-- A run has ended. -/
  | ends (code : Nat) (out err : String)
  /-- A run was broken off. -/
  | broken (why : Obstacle)
  deriving DecidableEq, Repr, Inhabited

/-! ## The profile text -/

/-- The diagnostics that reading a profile text records, worded for where complaints go. -/
def noticesOf (profile : Text) : List Diagnostic :=
  ((Profile.oddSeparator? profile.plain.toList).bind fun _ => profile.points[7]?).toList.map
    fun separator => .warning .input
      (separatorComplaint profile.escaped (Text.escaped ⟨[separator]⟩))
      [("upp", .text profile), ("separator", .text ⟨[separator]⟩)]

/-- The code points of a profile text that are read as digits, in order. -/
def digitPoints (profile : Text) : List CodePoint :=
  ((profile.points.take 9).eraseIdx 7).drop 1

/-- A fault in a profile text with what stands there in it, worded for where complaints go.  The
first digit that is taken for the one at fault is that one, since every half is at fault. -/
def faultIn (profile : Text) : Fault → Fault
  | .shortProfile _ => .shortProfile profile.escaped
  | .notHexDigit digit =>
    match (digitPoints profile).find? fun p => String.singleton p.char == digit with
    | some p => .notHexDigit (Text.escaped ⟨[p]⟩)
    | none => .notHexDigit digit
  | fault => fault

/-- The complaint about a profile text that cannot be read. -/
def badProfile (profile : Text) (fault : Fault) : String :=
  "worldgen: invalid UPP '" ++ profile.escaped ++ "': " ++ (faultIn profile fault).message

/-! ## Runs -/

/-- The texts from outside that a listing shows: the name of the main world, and the profile text
where its separator is complained about. -/
def listedTexts (name profile : Text) : List Text :=
  if (noticesOf profile).isEmpty then [name] else [name, profile]

/-- Generates the system around a main world and lists it. -/
def listing {σ : Type} [RandomSource σ] (limit seed : Int) (showEmpty : Bool) :
    Gen σ Atlas String := do
  let primary ← Generator.generate limit seed
  let a ← Gen.scene
  let diagnostics := (← get).journal.diagnostics
  let text ← Report.full a showEmpty primary diagnostics
  Gen.record (.seedUsed seed)
  return text

/-- The seed that the arguments give; the spare seed serves where they name none. -/
def seedOf (arguments : Arguments) (spare : Int) : Except Obstacle Int :=
  match arguments.seed with
  | none => .ok spare
  | some (.value seed) => .ok seed
  | some .nothing => .error .noSeed

/-- Generates and lists a system for the given arguments and settings.  The complaints about the
settings come first; what the journal tells follows as far as its level allows.  A profile that
cannot be read is told before a missing seed, and a missing seed before a missing name.  A listing
is printed as a whole or not at all. -/
def runWith {σ : Type} [RandomSource σ] (source : Int → σ) (arguments : Arguments)
    (settings : Settings) (complaints : List String) (spare : Int) : Outcome :=
  let level := if arguments.verbose then LogLevel.debug else LogLevel.named settings.logLevel
  let name := (arguments.name.map Given.text).getD settings.name
  let profile := (arguments.profile.map Given.text).getD settings.profile
  let notices : Journal := (noticesOf profile).map .diagnosed
  let showEmpty := arguments.showEmpty || settings.showEmpty
  match World.ofProfileText name.plain profile.plain false true, seedOf arguments spare with
  | .error fault, _ =>
    .ends 2 "" (unlines (complaints ++ notices.log level.number ++ [badProfile profile fault]))
  | .ok _, .error why => .broken why
  | .ok main, .ok seed =>
    match (listing settings.retryLimit seed showEmpty).run
      ⟨⟨source seed, []⟩, notices, ⟨[], main⟩⟩ with
    | .ok report run =>
      if arguments.name = some .nothing then .broken .noName
      else if (listedTexts name profile).all Text.isWhole then
        .ends 0 (report ++ "\n") (unlines (complaints ++ run.journal.log level.number))
      else .broken .unprintable
    | .error fault run =>
      .ends 1 "" (unlines (complaints ++ run.journal.log level.number ++ [fault.message]))

/-! ## Command lines -/

/-- The outcome of a command line, given the custom for the divider and what stands where the
settings are kept.  Loading the settings is one level within the run. -/
def answer (custom : Custom) (arguments : List Text) (path : String) (file : Settings.File)
    (spare : Int) : Outcome :=
  match Request.ofArguments custom arguments with
  | .help => .exits 0 (unlines helpLines)
  | .version => .exits 0 (unlines [versionText])
  | .misuse => .exits 2 ""
  | .run arguments =>
    match Settings.load (Settings.room.within 1) path file with
    | .error limit => .broken (.settings limit)
    | .ok (settings, complaints) => runWith Twister.ofSeed arguments settings complaints spare

/-- The outcome of a command line where the divider after an equals sign is dropped. -/
def run (arguments : List String) (path : String) (file : Settings.File) (spare : Int) : Outcome :=
  answer .drops (arguments.map Text.ofString) path file spare

end Starchart.CommandLine
