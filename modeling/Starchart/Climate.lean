import Starchart.Dice

/-!
# Climate tables

Short tables that are read at an index, where an index off either end reads the nearest entry.

## Main definitions

* `Starchart.Climate.nearest` — the entry of a table nearest to an index.
* `Starchart.Climate.distance` — mean orbital radius in millions of kilometres, by orbit.
* `Starchart.Climate.cloudiness` — cloud cover in per cent, by atmosphere.
* `Starchart.Climate.greenhouse` — greenhouse factor, by atmosphere.
* `Starchart.Climate.warmth` — temperature of a world in the habitable zone, by modified roll.
-/

set_option autoImplicit false

namespace Starchart.Climate

/-- The entry of the table `first :: rest` nearest to an index. -/
def nearest {α : Type} (first : α) (rest : List α) (index : Int) : α :=
  (first :: rest).getD (min index.toNat rest.length) first

/-- Mean orbital radius in millions of kilometres. -/
def distance : Int → Float :=
  nearest 29.9 [59.8, 104.7, 149.6, 239.3, 418.9, 777.9, 1495.9, 2932.0, 5804.0,
    11548.0, 23038.0, 46016.0, 91972.0, 183885.0, 367711.0, 735363.0,
    1470666.0, 2941274.0, 5882488.0]

/-- Cloud cover in per cent. -/
def cloudiness : Int → Int :=
  nearest 0 [0, 10, 10, 20, 30, 40, 50, 60, 70, 70]

/-- Greenhouse factor. -/
def greenhouse : Int → Float :=
  nearest 0.0 [0.0, 0.0, 0.0, 0.05, 0.05, 0.1, 0.1, 0.15, 0.15, 0.5, 0.5, 0.5, 0.15, 0.10, 0.0]

/-- Mean temperature in degrees Celsius of a world in the habitable zone. -/
def warmth : Int → Float :=
  nearest (-2.5) [0.0, 2.5, 5.0, 7.5, 10.0, 12.5, 15.0, 17.5, 20.0, 22.5, 25.0, 27.5, 30.0, 32.5,
    35.0]

/-- Rolls the temperature of a world in the habitable zone. -/
def rollWarmth {σ : Type} [RandomSource σ] (modifier : Int) : Roll σ Float :=
  return warmth ((← Roll.twoD6) + modifier)

end Starchart.Climate
