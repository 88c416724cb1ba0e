import Mathlib.Tactic.Common
import Starchart.Population.Pipeline

/-!
# Faults of rolls

A roll may fail because the source runs dry, because there is nothing to pick from, or because a table
or numeral lacks what was looked up.  None of that has to do with the phases of a star.

## Main definitions

* `Starchart.Fault.Timely` — faults other than a phase entered out of order.
* `Starchart.Roll.FailsAs` — which faults a roll may end in.

## Main results

* `Starchart.Roll.FailsAs.bind` — two rolls in a row.
* `Starchart.Population.failsAs_rollWorld`, `Starchart.Population.failsAs_rollBelt`,
  `Starchart.Satellite.failsAs_rollMoon` — the rolls for whole worlds fail timely.
-/

set_option autoImplicit false

namespace Starchart

/-- A fault other than a phase entered out of order. -/
def Fault.Timely (e : Fault) : Prop := ∀ next current, e ≠ .phaseOrder next current

/-- Any fault at all. -/
def Fault.Any (_ : Fault) : Prop := True

/-- Whatever fails a pure reading is as `F` tells. -/
def ReadsAs {α : Type} (x : Except Fault α) (F : Fault → Prop) : Prop :=
  ∀ e, x = .error e → F e

namespace Roll

variable {σ : Type} {α β : Type} {F : Fault → Prop}

/-- Whatever the dice show, a fault that the roll ends in is as `F` tells. -/
def FailsAs (x : Roll σ α) (F : Fault → Prop) : Prop :=
  ∀ dice, match x dice with
    | .ok _ _ => True
    | .error e _ => F e

/-- Two rolls in a row fail as each of them does. -/
lemma FailsAs.bind {x : Roll σ α} {f : α → Roll σ β} (hx : x.FailsAs F)
    (hf : ∀ a, (f a).FailsAs F) : (x >>= f).FailsAs F := by
  intro dice
  have first := hx dice
  cases h : x dice with
  | ok a mid => simpa only [Bind.bind, EStateM.bind, h] using hf a mid
  | error e mid =>
    rw [h] at first
    simpa only [Bind.bind, EStateM.bind, h] using first

/-- A returned value does not fail. -/
lemma failsAs_pure (a : α) : (pure a : Roll σ α).FailsAs F := fun _ => trivial

/-- A pure reading fails as it does without dice. -/
lemma failsAs_ofExcept {x : Except Fault α} (h : ReadsAs x F) :
    (liftM x : Roll σ α).FailsAs F := by
  cases x with
  | ok a => exact failsAs_pure a
  | error e => exact fun _ => h e rfl

/-- Whatever fails a roll is a fault. -/
lemma failsAs_any (x : Roll σ α) : x.FailsAs Fault.Any := by
  intro dice
  split <;> trivial

/-- One of two rolls. -/
lemma failsAs_ite {c : Prop} [Decidable c] {x y : Roll σ α} (hx : x.FailsAs F)
    (hy : y.FailsAs F) : (if c then x else y).FailsAs F := by
  split
  · exact hx
  · exact hy

end Roll

open Roll Fault

section Readings

variable {α β : Type} {F : Fault → Prop}

/-- Two readings in a row fail as each of them does. -/
lemma ReadsAs.bind {x : Except Fault α} {f : α → Except Fault β} (hx : ReadsAs x F)
    (hf : ∀ a, ReadsAs (f a) F) : ReadsAs (x >>= f) F := by
  intro e failed
  cases x with
  | ok a => exact hf a e failed
  | error e' =>
    cases failed
    exact hx e rfl

/-- What is made of an answer makes no faults. -/
lemma ReadsAs.map {x : Except Fault α} (hx : ReadsAs x F) (f : α → β) : ReadsAs (x.map f) F := by
  intro e failed
  cases x with
  | ok a => cases failed
  | error e' =>
    cases failed
    exact hx e rfl

/-- Whatever fails a reading is a fault. -/
lemma readsAs_any (x : Except Fault α) : ReadsAs x Fault.Any := fun _ _ => trivial

/-- An answer is no fault. -/
lemma readsAs_ok (a : α) : ReadsAs (.ok a : Except Fault α) F := fun _ failed => nomatch failed

/-- A fault is as it is. -/
lemma readsAs_error {e : Fault} (h : F e) : ReadsAs (.error e : Except Fault α) F :=
  fun _ failed => Except.error.inj failed ▸ h

end Readings

/-! ## Tables and numerals -/

/-- Looking up the column of a star fails timely. -/
lemma Star.readsAs_column (star : Star) : ReadsAs star.column Timely := by
  unfold column
  split
  · exact readsAs_ok _
  · split
    · exact readsAs_ok _
    · exact readsAs_error nofun

/-- So does looking up its zones. -/
lemma Star.readsAs_zones (star : Star) : ReadsAs star.zones Timely := star.readsAs_column.map _

/-- So does writing a numeral. -/
lemma Name.readsAs_designation (star : String) (orbit : Int) :
    ReadsAs (designation star orbit) Timely := by
  have numeral : ReadsAs (roman (orbit + 1)) Timely := by
    unfold roman
    split
    · exact readsAs_ok _
    · exact readsAs_error nofun
  exact numeral.map _

namespace Astro

/-- So does looking for the double nearest to a digit. -/
lemma readsAs_double (digit : Int) : ReadsAs (double digit) Timely := by
  unfold double
  split
  · exact readsAs_ok _
  · exact readsAs_error nofun

/-- So does working out the mass of a world. -/
lemma readsAs_massOf (size : Int) : ReadsAs (massOf size) Timely := by
  unfold massOf
  split
  · exact readsAs_ok _
  · refine (readsAs_double size).bind fun radius => ?_
    dsimp only
    split
    · exact readsAs_ok _
    · exact readsAs_error nofun

/-- So does working out its gravity. -/
lemma readsAs_gravityOf (size : Int) : ReadsAs (gravityOf size) Timely := by
  unfold gravityOf
  split
  · exact readsAs_ok _
  · exact (readsAs_double size).bind fun _ => readsAs_ok _

/-- So does working out all quantities of a world. -/
lemma readsAs_derive (star : Star) (position : Int) (p : Profile) (faces : Int) :
    ReadsAs (derive star position p faces) Timely :=
  (star.readsAs_zones.map _).bind fun _ => (star.readsAs_column.map _).bind fun _ =>
    (star.readsAs_column.map _).bind fun _ => (readsAs_massOf _).bind fun _ =>
      (readsAs_gravityOf _).bind fun _ => (readsAs_double _).bind fun _ => readsAs_ok _

end Astro

/-! ## Dice -/

variable {σ : Type} [RandomSource σ]

namespace Roll

/-- A pick fails timely. -/
lemma failsAs_index (n : Nat) : (index n : Roll σ (Fin n)).FailsAs Timely := by
  have dry : Timely .sourceExhausted := nofun
  have empty : Timely .emptyRange := nofun
  intro dice
  by_cases pos : 0 < n
  · simp only [index, dif_pos pos]
    rcases RandomSource.draw dice.source n pos with ⟨_ | value, source⟩
    · exact dry
    · trivial
  · simpa only [index, dif_neg pos] using empty

/-- So does a number below a bound. -/
lemma failsAs_below (n : Int) : (below n : Roll σ Int).FailsAs Timely :=
  failsAs_ite (fun _ => nofun) ((failsAs_index _).bind fun _ => failsAs_pure _)

/-- So does a die. -/
lemma failsAs_die (sides : Int) : (die sides : Roll σ Int).FailsAs Timely :=
  (failsAs_below _).bind fun _ => failsAs_pure _

/-- So do two dice. -/
lemma failsAs_twoD6 : (twoD6 : Roll σ Int).FailsAs Timely :=
  (failsAs_die _).bind fun _ => (failsAs_die _).bind fun _ => failsAs_pure _

/-- So does a pick out of a list. -/
lemma failsAs_choice {α : Type} (options : List α) : (choice options : Roll σ α).FailsAs Timely :=
  (failsAs_index _).bind fun _ => failsAs_pure _

end Roll

namespace Name

/-- So does a word of several syllables. -/
lemma failsAs_proper (count : Nat) : (proper count : Roll σ String).FailsAs Timely := by
  have syllables : (stem count : Roll σ String).FailsAs Timely := by
    induction count with
    | zero => exact failsAs_pure _
    | succ count ih => exact (failsAs_choice _).bind fun _ => ih.bind fun _ => failsAs_pure _
  exact syllables.bind fun _ => failsAs_pure _

/-- So does the name of a planet. -/
lemma failsAs_planet : (planet : Roll σ String).FailsAs Timely :=
  (failsAs_index _).bind fun _ => (failsAs_proper _).bind fun _ =>
    (failsAs_choice _).bind fun _ => failsAs_pure _

/-- So does the name of a moon. -/
lemma failsAs_moon : (moon : Roll σ String).FailsAs Timely :=
  (failsAs_choice _).bind fun _ => (failsAs_choice _).bind fun _ => failsAs_pure _

end Name

/-! ## Worlds -/

/-- So does surveying a world. -/
lemma World.failsAs_surveyed (w : World) (star : Star) :
    (w.surveyed star : Roll σ World).FailsAs Timely := by
  have derived := fun faces => Astro.readsAs_derive star w.position w.profile faces
  refine FailsAs.bind ?_ fun _ => failsAs_pure _
  refine (failsAs_ofExcept (derived 0)).bind fun _ =>
    (failsAs_ofExcept (star.readsAs_zones.map _)).bind fun _ => ?_
  split
  · exact failsAs_twoD6.bind fun faces => failsAs_ofExcept (derived faces)
  · exact failsAs_pure _

namespace Settlement

/-- So does governing a world. -/
lemma failsAs_govern (w main : World) : (govern w main : Roll σ World).FailsAs Timely := by
  have government : ∀ population, (rollGovernment population main : Roll σ Int).FailsAs Timely :=
    fun _ => failsAs_ite (failsAs_pure _) ((failsAs_die _).bind fun _ => failsAs_pure _)
  have law : ∀ population, (rollLaw population main : Roll σ Int).FailsAs Timely :=
    fun _ => failsAs_ite (failsAs_pure _) ((failsAs_die _).bind fun _ => failsAs_pure _)
  have port : ∀ population, (rollPort population : Roll σ Port).FailsAs Timely :=
    fun _ => (failsAs_die _).bind fun _ => failsAs_pure _
  exact (government _).bind fun _ => (law _).bind fun _ => (port _).bind fun _ => failsAs_pure _

/-- So does equipping a world. -/
lemma failsAs_equip (w : World) (zones : Zones) (main : World) :
    (equip w zones main : Roll σ World).FailsAs Timely := by
  have lab : (rollLab w main : Roll σ Bool).FailsAs Timely :=
    failsAs_ite (failsAs_twoD6.bind fun _ => failsAs_pure _) (failsAs_pure _)
  have military : (rollMilitary w main : Roll σ Bool).FailsAs Timely :=
    failsAs_ite (failsAs_twoD6.bind fun _ => failsAs_pure _) (failsAs_pure _)
  exact lab.bind fun _ => military.bind fun _ => failsAs_pure _

/-- So does settling a world. -/
lemma failsAs_settle (w : World) (zones : Zones) (main : World) :
    (settle w zones main : Roll σ World).FailsAs Timely :=
  (failsAs_govern w main).bind fun _ => failsAs_equip _ zones main

end Settlement

namespace Satellite

/-- So does the orbit of a satellite. -/
lemma failsAs_rollOrbit (host : Host) (ring : Bool) :
    (rollOrbit host ring : Roll σ Int).FailsAs Timely :=
  failsAs_ite ((failsAs_die _).bind fun _ => failsAs_pure _)
    (failsAs_twoD6.bind fun _ => (failsAs_die _).bind fun _ => failsAs_pure _)

/-- So does the water of a world. -/
lemma failsAs_rollHydro (s : Setting) (size atmosphere : Int) :
    (rollHydro s size atmosphere : Roll σ Int).FailsAs Timely :=
  failsAs_twoD6.bind fun _ => failsAs_pure _

/-- So does a moon. -/
lemma failsAs_rollMoon (s : Setting) (main : World) (size orbit : Int) :
    (rollMoon s main size orbit : Roll σ World).FailsAs Timely := by
  have atmosphere : (rollAtmosphere s size : Roll σ Int).FailsAs Timely :=
    failsAs_twoD6.bind fun _ => failsAs_pure _
  have population : ∀ air, (rollPopulation s air main : Roll σ Int).FailsAs Timely :=
    fun _ => failsAs_twoD6.bind fun _ => failsAs_pure _
  exact atmosphere.bind fun _ => (failsAs_rollHydro s _ _).bind fun _ => (population _).bind fun _ =>
    Name.failsAs_moon.bind fun _ => (Settlement.failsAs_settle _ _ _).bind fun _ =>
      World.failsAs_surveyed _ _

end Satellite

namespace Host

/-- So does the number of satellites. -/
lemma failsAs_rollCount (host : Host) : (host.rollCount : Roll σ Int).FailsAs Timely := by
  cases host with
  | world w => exact failsAs_ite (failsAs_pure _) ((failsAs_die _).bind fun _ => failsAs_pure _)
  | giant g =>
    rcases g with ⟨name, _ | _, orbit, satellites⟩
    · exact (failsAs_twoD6 (σ := σ)).bind fun _ => failsAs_pure _
    · exact failsAs_twoD6

/-- So does the size of a satellite. -/
lemma failsAs_rollSize (host : Host) : (host.rollSize : Roll σ Int).FailsAs Timely := by
  cases host with
  | world w => exact (failsAs_die _).bind fun _ => failsAs_pure _
  | giant g =>
    rcases g with ⟨name, _ | _, orbit, satellites⟩ <;>
      exact (failsAs_twoD6 (σ := σ)).bind fun _ => failsAs_pure _

end Host

namespace Population

/-- So do the counts of empty orbits. -/
lemma failsAs_rollEmpties : (rollEmpties : Roll σ Nat).FailsAs Timely := by
  refine (failsAs_die _).bind fun _ => ?_
  split
  · exact failsAs_pure _
  · exact (failsAs_die _).bind fun _ => failsAs_pure _

/-- So do those of gas giants. -/
lemma failsAs_rollGiants : (rollGiants : Roll σ Int).FailsAs Timely := by
  refine failsAs_twoD6.bind fun _ => ?_
  split
  · exact failsAs_pure _
  · exact failsAs_twoD6.bind fun _ => failsAs_pure _

/-- So do those of belts. -/
lemma failsAs_rollBelts (giants : Int) : (rollBelts giants : Roll σ Int).FailsAs Timely := by
  refine failsAs_twoD6.bind fun _ => ?_
  split
  · exact failsAs_pure _
  · exact failsAs_twoD6.bind fun _ => failsAs_pure _

/-- So does the pick of an orbit. -/
lemma failsAs_pick (c : Candidates) : (c.pick : Roll σ (Int × Candidates)).FailsAs Timely := by
  unfold Candidates.pick
  split <;> exact (failsAs_index _).bind fun _ => failsAs_pure _

/-- So does a gas giant. -/
lemma failsAs_rollGiant (s : StarSystem) (orbit : Int) :
    (rollGiant s orbit : Roll σ Slot).FailsAs Timely :=
  (failsAs_die _).bind fun _ => (failsAs_ofExcept (Name.readsAs_designation _ _)).bind fun _ =>
    failsAs_pure _

/-- So does its final name. -/
lemma failsAs_rollGiantName (star : String) (orbit : Int) (main : World) (giant : GasGiant) :
    (rollGiantName star orbit main giant : Roll σ String).FailsAs Timely :=
  failsAs_ite Name.failsAs_planet (failsAs_ofExcept (Name.readsAs_designation _ _))

/-- So does a belt. -/
lemma failsAs_rollBelt (s : StarSystem) (orbit : Int) (main : World) :
    (rollBelt s orbit main : Roll σ World).FailsAs Timely :=
  (failsAs_ofExcept s.star.readsAs_zones).bind fun _ =>
    (failsAs_twoD6.bind fun _ => failsAs_pure _).bind fun _ =>
      (Settlement.failsAs_settle _ _ _).bind fun _ => World.failsAs_surveyed _ _

/-- So does any other world. -/
lemma failsAs_rollWorld (s : StarSystem) (orbit : Int) (main : World) :
    (rollWorld s orbit main : Roll σ World).FailsAs Timely := by
  have atmosphere : ∀ setting size, (rollAtmosphere setting size : Roll σ Int).FailsAs Timely :=
    fun _ _ => failsAs_twoD6.bind fun _ => failsAs_twoD6.bind fun _ => failsAs_pure _
  have name : ∀ population, (rollName s.name orbit population : Roll σ String).FailsAs Timely :=
    fun _ => failsAs_ite Name.failsAs_planet (failsAs_ofExcept (Name.readsAs_designation _ _))
  exact (failsAs_ofExcept s.star.readsAs_zones).bind fun _ => failsAs_twoD6.bind fun _ =>
    (atmosphere _ _).bind fun _ => (Satellite.failsAs_rollHydro _ _ _).bind fun _ =>
      (failsAs_twoD6.bind fun _ => failsAs_pure _).bind fun _ => (name _).bind fun _ =>
        (Settlement.failsAs_settle _ _ _).bind fun _ => World.failsAs_surveyed _ _

end Population

end Starchart
