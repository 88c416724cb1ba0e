import Starchart.Fault
import Starchart.Text.Capital
import Starchart.Text.Layout

/-!
# World profiles

A profile is the string of digits by which a world is charted, such as `A788899-A`: starport, size,
atmosphere, hydrographics, population, government, law level, a separator and tech level.  Every
digit is one hexadecimal character, except that the size digit also knows `S` for a small body and
`R` for a ring.

## Main definitions

* `Starchart.Port` — starport classes.
* `Starchart.Digit`, `Starchart.SizeDigit` — one digit, read and written.
* `Starchart.Profile` — the digits of a world.
* `Starchart.Profile.read` — the profile that a text spells.
* `Starchart.Profile.write` — the text of a profile.
* `Starchart.Profile.oddSeparator?` — a separator that is neither a hyphen nor a blank.
-/

set_option autoImplicit false

namespace Starchart

/-! ## Starports -/

/-- Starport classes: `A` to `E` and `X` for main worlds, `Y`, `H`, `G` and `F` for the rest. -/
inductive Port where
  | A | B | C | D | E | X | Y | H | G | F
  deriving DecidableEq, Repr, Inhabited

namespace Port

/-- The letter of a starport class. -/
def letter : Port → Char
  | A => 'A' | B => 'B' | C => 'C' | D => 'D' | E => 'E' | X => 'X' | Y => 'Y' | H => 'H'
  | G => 'G' | F => 'F'

/-- Every starport class. -/
def all : List Port := [A, B, C, D, E, X, Y, H, G, F]

/-- The class that a text names in either case; an unknown one counts as `Y`. -/
def ofText (text : List Char) : Port :=
  (all.find? fun port => Text.upper text == [port.letter]).getD Y

end Port

/-! ## Digits -/

namespace Digit

/-- The sixteen hexadecimal digits. -/
def all : List Char :=
  ['0', '1', '2', '3', '4', '5', '6', '7', '8', '9', 'A', 'B', 'C', 'D', 'E', 'F']

/-- A number from `0` to `15` as one hexadecimal digit. -/
def write (value : Int) : Except Fault Char :=
  if 0 ≤ value then
    match all[value.toNat]? with
    | some digit => .ok digit
    | none => .error (.digitOverflow value)
  else .error (.digitOverflow value)

/-- The value of a text that is one hexadecimal digit in either case. -/
def read (text : List Char) : Except Fault Int :=
  match text with
  | [c] =>
    match all.findIdx? (fun digit => Text.capitals c == [digit]) with
    | some value => .ok value
    | none => .error (.notHexDigit (String.ofList text))
  | _ => .error (.notHexDigit (String.ofList text))

/-- Each of the sixteen digits reads back as its number. -/
theorem read_write_fin (n : Fin 16) :
    ((write (n.val : Int)).toOption.bind fun digit => (read [digit]).toOption) =
      some (n.val : Int) := by
  revert n
  decide

/-- The digit of a number reads back as that number. -/
theorem read_write {value : Int} {digit : Char} (h : write value = .ok digit) :
    read [digit] = .ok value := by
  by_cases nonneg : 0 ≤ value
  · obtain ⟨n, rfl⟩ := Int.eq_ofNat_of_zero_le nonneg
    by_cases small : n < 16
    · have back := read_write_fin ⟨n, small⟩
      rw [h] at back
      cases hr : read [digit] with
      | ok m => simpa [hr, Except.toOption] using back
      | error e => simp [hr, Except.toOption] at back
    · have missing : all[n]? = none := by
        rw [List.getElem?_eq_none_iff]
        simpa [all] using small
      simp [write, missing] at h
  · simp [write, nonneg] at h

end Digit

namespace SizeDigit

/-- The size that a text stands for: `S` is a small body, counted as `-1` on a satellite, and `R`
is a ring. -/
def read (text : List Char) (satellite : Bool) : Except Fault Int :=
  if Text.upper text = ['S'] then .ok (if satellite then -1 else 0)
  else if Text.upper text = ['R'] then .ok 0
  else Digit.read text

/-- The size digit.  A satellite is an `S` at size `-1` and a ring `R` at zero; of the other bodies
only the main world and planetoids are never written `S`. -/
def write (size : Int) (name : String) (satellite mainWorld : Bool) : Except Fault Char :=
  if satellite ∧ size = -1 then .ok 'S'
  else if satellite ∧ size = 0 then .ok 'R'
  else if size ≤ 0 ∧ ¬mainWorld ∧ ¬satellite ∧
      ¬Text.mentions "Planetoid".toList name.toList then .ok 'S'
  else if size = 0 then .ok '0'
  else Digit.write size

end SizeDigit

/-! ## Profiles -/

/-- The digits of a world. -/
structure Profile where
  port : Port := .Y
  /-- The size digit; `-1` stands for a small body. -/
  size : Int := 0
  atmosphere : Int := 0
  hydro : Int := 0
  population : Int := 0
  government : Int := 0
  law : Int := 0
  tech : Int := 0
  deriving DecidableEq, Repr, Inhabited

namespace Profile

/-- The separator of a profile text when it is neither a hyphen nor a blank; a text that is too
short for a profile has none. -/
def oddSeparator? (text : List Char) : Option Char :=
  match text with
  | _ :: _ :: _ :: _ :: _ :: _ :: _ :: separator :: _ :: _ =>
    if separator = '-' ∨ separator = ' ' then none else some separator
  | _ => none

/-- The profile that a text spells.  Only the first nine characters are read, any separator will
do, and an unknown starport counts as `Y`. -/
def read (text : List Char) (satellite : Bool) : Except Fault Profile :=
  match text with
  | port :: size :: atmosphere :: hydro :: population :: government :: law :: _ :: tech :: _ => do
    let size ← SizeDigit.read [size] satellite
    let atmosphere ← Digit.read [atmosphere]
    let hydro ← Digit.read [hydro]
    let population ← Digit.read [population]
    let government ← Digit.read [government]
    let law ← Digit.read [law]
    let tech ← Digit.read [tech]
    return ⟨.ofText [port], size, atmosphere, hydro, population, government, law, tech⟩
  | _ => .error (.shortProfile (String.ofList text))

/-- The text of a profile, nine characters long.  The name and the two flags of the world settle
how its size is written. -/
def write (p : Profile) (name : String) (satellite mainWorld : Bool) :
    Except Fault (List Char) := do
  let size ← SizeDigit.write p.size name satellite mainWorld
  let atmosphere ← Digit.write p.atmosphere
  let hydro ← Digit.write p.hydro
  let population ← Digit.write p.population
  let government ← Digit.write p.government
  let law ← Digit.write p.law
  let tech ← Digit.write p.tech
  return [p.port.letter, size, atmosphere, hydro, population, government, law, '-', tech]

end Profile

end Starchart
