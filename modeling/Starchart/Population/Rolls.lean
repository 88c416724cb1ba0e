import Starchart.Dice

/-!
# Body counts

Rolls for how many orbits of a star stay empty and how many gas giants and planetoid belts it has.

## Main definitions

* `Starchart.Population.rollEmpties`, `Starchart.Population.rollGiants`,
  `Starchart.Population.rollBelts` — the three counts.
-/

set_option autoImplicit false

namespace Starchart.Population

variable {σ : Type} [RandomSource σ]

/-- Rolls the number of orbits that stay empty. -/
def rollEmpties : Roll σ Nat := do
  if (← Roll.d6) < 5 then return 0
  else
    let roll ← Roll.d6
    return if roll ≤ 2 then 1 else if roll = 3 then 2 else 3

/-- Rolls the number of gas giants. -/
def rollGiants : Roll σ Int := do
  if 10 ≤ (← Roll.twoD6) then return 0
  else
    let roll ← Roll.twoD6
    return if roll ≤ 3 then 1 else if roll ≤ 5 then 2 else if roll ≤ 7 then 3
      else if roll ≤ 10 then 4 else 5

/-- Rolls the number of planetoid belts of a star with the given number of gas giants. -/
def rollBelts (giants : Int) : Roll σ Int := do
  if 7 ≤ (← Roll.twoD6) then return 0
  else
    let roll := (← Roll.twoD6) - giants
    return if roll ≤ 3 then 3 else if roll ≤ 6 then 2 else 1

end Starchart.Population
