import Starchart.Dice
import Starchart.Text.Layout

/-!
# Names

Names for stars, worlds and moons are strung together from short syllables, the way Imperial charts
read: Kashadur, Gimeda, Irlaggur.  A body that nobody lives on keeps a designation: the name of its
star and the Roman numeral of its orbit.

## Main definitions

* `Starchart.Name.roman` — the numeral of a number from `0` to `20`.
* `Starchart.Name.designation` — the systematic name of an unsettled body.
* `Starchart.Name.star`, `Starchart.Name.planet`, `Starchart.Name.moon` — rolled names.
* `Starchart.Name.ring`, `Starchart.Name.belt` — the names of rings and belts.
-/

set_option autoImplicit false

namespace Starchart.Name

/-- The name of a ring. -/
def ring : String := "Ring System"

/-- The name of a planetoid belt. -/
def belt : String := "Planetoid Belt"

/-! ## Designations -/

/-- Roman symbols, from the largest value down. -/
def symbols : List (Nat × String) :=
  [(10, "X"), (9, "IX"), (5, "V"), (4, "IV"), (1, "I")]

/-- A number in the given symbols, each written as often as it fits. -/
def spell : Nat → List (Nat × String) → String
  | _, [] => ""
  | n, (value, symbol) :: rest =>
    String.join (List.replicate (n / value) symbol) ++ spell (n % value) rest

/-- The Roman numeral of a number from `0` to `20`; zero is written `N`. -/
def roman (n : Int) : Except Fault String :=
  if 0 ≤ n ∧ n ≤ 20 then .ok (if n = 0 then "N" else spell n.toNat symbols)
  else .error (.numeralRange n)

/-- The systematic name of a body: the first orbit is number one. -/
def designation (star : String) (orbit : Int) : Except Fault String :=
  (roman (orbit + 1)).map fun numeral => star ++ " " ++ numeral

/-! ## Rolled names -/

variable {σ : Type} [RandomSource σ]

/-- The syllables of proper names. -/
def syllables : List String :=
  ["ka", "gi", "ar", "shu", "lin", "me", "da", "ir", "ku", "ne",
   "zi", "um", "ga", "ri", "sha", "kir", "dur", "an", "lag", "gur"]

/-- The catalogues of the Imperial survey. -/
def catalogues : List String := ["IISS", "SPA", "ISR", "KFV"]

/-- How names of planets end. -/
def planetEndings : List String :=
  ["a", "on", "ia", "ar", "em", "ys", "ora", "ant", "el", "ide"]

/-- How names of moons begin. -/
def moonStems : List String :=
  ["Ae", "Bri", "Cal", "Dei", "Ely", "Gan", "Hel", "Io", "Lar", "Mne",
   "Nyx", "Pho", "Rhe", "Tet", "Tha", "Umb", "Vex", "Zel"]

/-- How names of moons end. -/
def moonEndings : List String :=
  ["ne", "mos", "ra", "lis", "to", "ope", "da", "tis", "ia", "on"]

/-- A word with a capital first letter. -/
def capitalise (word : String) : String :=
  match word.toList with
  | [] => ""
  | c :: rest => String.ofList (c.toUpper :: rest)

/-- The given number of syllables in a row. -/
def stem : Nat → Roll σ String
  | 0 => return ""
  | count + 1 => do
    let first ← Roll.choice syllables
    let rest ← stem count
    return first ++ rest

/-- A proper name of the given number of syllables. -/
def proper (count : Nat) : Roll σ String :=
  return capitalise (← stem count)

/-- The name of a star: a proper name, one with its subsector hex, or a survey entry. -/
def star : Roll σ String := do
  let style ← Roll.index 3
  match style.val with
  | 0 =>
    let extra ← Roll.index 2
    proper (2 + extra.val)
  | 1 =>
    let name ← proper 2
    let column ← Roll.index 8
    let row ← Roll.index 10
    return name ++ " " ++ Text.twoDigits (1 + column.val) ++ Text.twoDigits (1 + row.val)
  | _ =>
    let catalogue ← Roll.choice catalogues
    let entry ← Roll.index 9000
    return catalogue ++ "-" ++ toString (1000 + entry.val)

/-- The name of a settled world. -/
def planet : Roll σ String := do
  let extra ← Roll.index 2
  let name ← proper (1 + extra.val)
  return name ++ (← Roll.choice planetEndings)

/-- The name of a moon. -/
def moon : Roll σ String := do
  let first ← Roll.choice moonStems
  return first ++ (← Roll.choice moonEndings)

end Starchart.Name
