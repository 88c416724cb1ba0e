import Starchart.Profile

/-!
# Trade classes

The standard trade codes of a world, read off its digits without dice.

## Main definitions

* `Starchart.TradeClass` — the codes.
* `Starchart.TradeClass.applies` — when a code applies.
* `Starchart.Profile.tradeClasses` — every code that applies, in listing order.
-/

set_option autoImplicit false

namespace Starchart

/-- Standard trade codes. -/
inductive TradeClass where
  | agricultural
  | asteroid
  | barren
  | desert
  | fluidOceans
  | garden
  | highPopulation
  | highTech
  | iceCapped
  | industrial
  | lowTech
  | nonAgricultural
  | nonIndustrial
  | poor
  | rich
  | vacuum
  | waterWorld
  deriving DecidableEq, Repr, Inhabited

namespace TradeClass

/-- The two letters of a trade code. -/
def code : TradeClass → String
  | agricultural => "Ag"
  | asteroid => "As"
  | barren => "Ba"
  | desert => "De"
  | fluidOceans => "Fl"
  | garden => "Ga"
  | highPopulation => "Hi"
  | highTech => "Ht"
  | iceCapped => "Ic"
  | industrial => "In"
  | lowTech => "Lt"
  | nonAgricultural => "Na"
  | nonIndustrial => "Ni"
  | poor => "Po"
  | rich => "Ri"
  | vacuum => "Va"
  | waterWorld => "Wa"

/-- Every trade code in the order in which a listing names them. -/
def listing : List TradeClass :=
  [agricultural, nonAgricultural, asteroid, barren, fluidOceans, garden, highPopulation, highTech,
   industrial, nonIndustrial, lowTech, rich, poor, waterWorld, desert, iceCapped, vacuum]

/-- The trade code with the given letters. -/
def ofCode? (text : String) : Option TradeClass :=
  listing.find? (·.code == text)

/-- Whether a trade code applies to a world with the given digits; only a main world counts as an
asteroid. -/
def applies (p : Profile) (mainWorld : Bool) : TradeClass → Bool
  | agricultural =>
    decide (4 ≤ p.atmosphere ∧ p.atmosphere ≤ 9 ∧ 4 ≤ p.hydro ∧ p.hydro ≤ 8 ∧
      5 ≤ p.population ∧ p.population ≤ 7)
  | nonAgricultural => decide (p.atmosphere ≤ 3 ∧ p.hydro ≤ 3 ∧ 6 ≤ p.population)
  | asteroid => decide (p.size = 0 ∧ p.atmosphere = 0 ∧ p.hydro = 0) && mainWorld
  | barren => decide (p.population = 0 ∧ p.government = 0 ∧ p.law = 0)
  | fluidOceans => decide (10 ≤ p.atmosphere ∧ 1 ≤ p.hydro)
  | garden =>
    decide (6 ≤ p.size ∧ p.size ≤ 8 ∧
      (p.atmosphere = 5 ∨ p.atmosphere = 6 ∨ p.atmosphere = 8) ∧ 5 ≤ p.hydro ∧ p.hydro ≤ 7)
  | highPopulation => decide (9 ≤ p.population)
  | highTech => decide (12 ≤ p.tech)
  | industrial =>
    decide ((p.atmosphere = 0 ∨ p.atmosphere = 1 ∨ p.atmosphere = 2 ∨ p.atmosphere = 4 ∨
      p.atmosphere = 7 ∨ p.atmosphere = 9) ∧ 9 ≤ p.population)
  | nonIndustrial => decide (1 ≤ p.population ∧ p.population ≤ 6)
  | lowTech => decide (1 ≤ p.population ∧ p.tech ≤ 5)
  | rich =>
    decide ((p.atmosphere = 6 ∨ p.atmosphere = 8) ∧
      (p.population = 6 ∨ p.population = 7 ∨ p.population = 8) ∧
      4 ≤ p.government ∧ p.government ≤ 9)
  | poor => decide (2 ≤ p.atmosphere ∧ p.atmosphere ≤ 5 ∧ p.hydro ≤ 3)
  | waterWorld => decide (p.hydro = 10)
  | desert => decide (p.hydro = 0 ∧ 1 < p.atmosphere)
  | iceCapped => decide (p.atmosphere ≤ 1 ∧ p.hydro = 10)
  | vacuum => decide (p.atmosphere = 0 ∧ 2 ≤ p.population)

end TradeClass

/-- The trade classes of a world with the given digits. -/
def Profile.tradeClasses (p : Profile) (mainWorld : Bool) : List TradeClass :=
  TradeClass.listing.filter (TradeClass.applies p mainWorld)

end Starchart
