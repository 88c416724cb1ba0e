import Mathlib.Tactic.Common
import Starchart.Proofs.Answers
import Starchart.World

/-!
# Ranges of digits

A profile text has one character for each digit, so what is read from it is in range, and what is
in range can be written.  What is written reads back, although the reader knows neither the name nor
the role of the world, on which the size digit depends.

## Main definitions

* `Starchart.Profile.InRange` — digits that fit into a profile text.

## Main results

* `Starchart.Profile.inRange_of_read` — what a text spells is in range.
* `Starchart.Profile.InRange.exists_write` — what is in range has a text.
* `Starchart.Profile.read_write` — the text of a profile reads back.
-/

set_option autoImplicit false

namespace Starchart

/-! ## Single digits -/

/-- A number from `0` to `15` has a digit. -/
lemma Digit.exists_write {value : Int} (nonneg : 0 ≤ value) (le : value ≤ 15) :
    ∃ digit, Digit.write value = .ok digit := by
  have short : value.toNat < Digit.all.length := by
    simp only [Digit.all, List.length_cons, List.length_nil]
    omega
  exact ⟨Digit.all[value.toNat],
    by simp only [Digit.write, if_pos nonneg, List.getElem?_eq_getElem short]⟩

/-- What a digit stands for is a number from `0` to `15`. -/
lemma Digit.range_of_read {text : List Char} {value : Int} (h : Digit.read text = .ok value) :
    0 ≤ value ∧ value ≤ 15 := by
  unfold Digit.read at h
  split at h
  · split at h
    · rename_i n hn
      obtain ⟨short, -⟩ := List.findIdx?_eq_some_iff_getElem.mp hn
      simp only [Digit.all, List.length_cons, List.length_nil] at short
      injection h with h
      omega
    · injection h
  · injection h

/-- The least size that is written: that of a small body among satellites. -/
def leastSize (satellite : Bool) : Int := if satellite then -1 else 0

/-- The size that a character stands for is no smaller than the least one, and at most `15`.

**Proof sketch.** A small moon is read as `-1`, the least size of a satellite. Any other small body
and a ring are read as zero, and all else as a digit. -/
lemma SizeDigit.range_of_read {text : List Char} {satellite : Bool} {size : Int}
    (h : SizeDigit.read text satellite = .ok size) : leastSize satellite ≤ size ∧ size ≤ 15 := by
  unfold SizeDigit.read at h
  split at h
  · injection h with h
    cases satellite <;> simp only [leastSize, Bool.false_eq_true, if_false, if_true] at h ⊢ <;>
      omega
  · have least : leastSize satellite ≤ 0 := by cases satellite <;> decide
    split at h
    · injection h with h
      omega
    · have := Digit.range_of_read h
      omega

/-- A size that is neither too small nor beyond `15` has a digit. -/
lemma SizeDigit.exists_write {size : Int} {satellite : Bool} (least : leastSize satellite ≤ size)
    (le : size ≤ 15) (name : String) (mainWorld : Bool) :
    ∃ digit, SizeDigit.write size name satellite mainWorld = .ok digit := by
  unfold SizeDigit.write
  split_ifs with small ring
  · exact ⟨_, rfl⟩
  · exact ⟨_, rfl⟩
  · exact ⟨_, rfl⟩
  · exact ⟨_, rfl⟩
  · refine Digit.exists_write ?_ le
    cases satellite <;>
      simp only [leastSize, Bool.false_eq_true, if_false, if_true, true_and] at least small
    · exact least
    · omega

/-! ## Digits that read back -/

/-- The letter of a starport class names that class. -/
lemma Port.ofText_letter (port : Port) : Port.ofText [port.letter] = port := by
  cases port <;> decide

/-- What is written for a number is one of the sixteen digits. -/
lemma Digit.mem_all_of_write {value : Int} {digit : Char} (h : Digit.write value = .ok digit) :
    digit ∈ Digit.all := by
  unfold Digit.write at h
  split at h
  · split at h
    · rename_i found
      injection h with h
      exact h ▸ List.mem_of_getElem? found
    · injection h
  · injection h

/-- A number that has a digit is not negative. -/
lemma Digit.nonneg_of_write {value : Int} {digit : Char} (h : Digit.write value = .ok digit) :
    0 ≤ value := by
  by_contra negative
  rw [Digit.write, if_neg negative] at h
  injection h

/-- No digit is mistaken for the letter of a small body or of a ring. -/
lemma Digit.upper_ne_of_mem_all {digit : Char} (mem : digit ∈ Digit.all) :
    Text.upper [digit] ≠ ['S'] ∧ Text.upper [digit] ≠ ['R'] := by
  have apart : (Digit.all.all fun digit =>
      decide (Text.upper [digit] ≠ ['S'] ∧ Text.upper [digit] ≠ ['R'])) = true := by decide
  exact of_decide_eq_true (List.all_eq_true.mp apart digit mem)

/-- The size digit reads back as the size, whatever the name and the role of the world, except that
a body which is no satellite has no size below zero.

**Proof sketch.** The branches of writing: `S` stands for the least size, which a satellite has
where it is written, and which lies above the sizes of other bodies that are written so; `R` and `0`
stand for zero; and all other sizes are digits, which are never read as one of the two letters. -/
theorem SizeDigit.read_write {size : Int} {name : String} {satellite mainWorld : Bool} {digit : Char}
    (h : SizeDigit.write size name satellite mainWorld = .ok digit) :
    SizeDigit.read [digit] satellite = .ok (max (leastSize satellite) size) := by
  have least : leastSize satellite ≤ 0 := by cases satellite <;> decide
  unfold SizeDigit.write at h
  split_ifs at h with small ring hidden zero
  · obtain ⟨rfl, rfl⟩ := small
    cases h
    rfl
  · obtain ⟨rfl, rfl⟩ := ring
    cases h
    rfl
  · obtain ⟨le, -, planet, -⟩ := hidden
    cases satellite with
    | true => exact absurd rfl planet
    | false =>
      cases h
      have lowest : max (leastSize false) size = 0 := Int.max_eq_left le
      rw [lowest]
      rfl
  · subst zero
    cases h
    rw [Int.max_eq_right least]
    cases satellite <;> decide
  · have nonneg := Digit.nonneg_of_write h
    obtain ⟨notSmall, notRing⟩ := Digit.upper_ne_of_mem_all (Digit.mem_all_of_write h)
    rw [SizeDigit.read, if_neg notSmall, if_neg notRing, Digit.read_write h,
      Int.max_eq_right (Int.le_trans least nonneg)]

/-! ## Profiles -/

namespace Profile

/-- Digits that fit into a profile text, where sizes start at `least`. Each of them is written with
one hexadecimal digit, a small body among satellites with its own letter. -/
structure InRange (p : Profile) (least : Int) : Prop where
  size : least ≤ p.size ∧ p.size ≤ 15
  atmosphere : 0 ≤ p.atmosphere ∧ p.atmosphere ≤ 15
  hydro : 0 ≤ p.hydro ∧ p.hydro ≤ 15
  population : 0 ≤ p.population ∧ p.population ≤ 15
  government : 0 ≤ p.government ∧ p.government ≤ 15
  law : 0 ≤ p.law ∧ p.law ≤ 15
  tech : 0 ≤ p.tech ∧ p.tech ≤ 15

/-- Sizes may start lower. -/
lemma InRange.mono {p : Profile} {least lower : Int} (h : p.InRange least) (le : lower ≤ least) :
    p.InRange lower :=
  { h with size := ⟨Int.le_trans le h.size.1, h.size.2⟩ }

/-! ### Digit by digit -/

section Digits

variable {name : String} {satellite mainWorld : Bool} {p : Profile} {text : List Char}

/-- The text of a profile is put together from those of its digits, each of which there has to
be. -/
lemma write_eq_ok_iff : p.write name satellite mainWorld = .ok text ↔
    ∃ size, SizeDigit.write p.size name satellite mainWorld = .ok size ∧
    ∃ atmosphere, Digit.write p.atmosphere = .ok atmosphere ∧
    ∃ hydro, Digit.write p.hydro = .ok hydro ∧
    ∃ population, Digit.write p.population = .ok population ∧
    ∃ government, Digit.write p.government = .ok government ∧
    ∃ law, Digit.write p.law = .ok law ∧
    ∃ tech, Digit.write p.tech = .ok tech ∧
      [p.port.letter, size, atmosphere, hydro, population, government, law, '-', tech] = text := by
  simp only [write, bind_eq_ok_iff, pure, Except.pure, Except.ok.injEq]

/-- A text with nine characters spells a profile if all of them but the first and the separator are
the digits of that profile. -/
lemma read_eq_ok_iff {port size atmosphere hydro population government law separator tech : Char}
    {rest : List Char} :
    read (port :: size :: atmosphere :: hydro :: population :: government :: law :: separator ::
        tech :: rest) satellite = .ok p ↔
      SizeDigit.read [size] satellite = .ok p.size ∧ Digit.read [atmosphere] = .ok p.atmosphere ∧
        Digit.read [hydro] = .ok p.hydro ∧ Digit.read [population] = .ok p.population ∧
        Digit.read [government] = .ok p.government ∧ Digit.read [law] = .ok p.law ∧
        Digit.read [tech] = .ok p.tech ∧ Port.ofText [port] = p.port := by
  simp only [read, bind_eq_ok_iff, pure, Except.pure, Except.ok.injEq]
  constructor
  · rintro ⟨_, h₁, _, h₂, _, h₃, _, h₄, _, h₅, _, h₆, _, h₇, rfl⟩
    exact ⟨h₁, h₂, h₃, h₄, h₅, h₆, h₇, rfl⟩
  · cases p
    rintro ⟨h₁, h₂, h₃, h₄, h₅, h₆, h₇, rfl⟩
    exact ⟨_, h₁, _, h₂, _, h₃, _, h₄, _, h₅, _, h₆, _, h₇, rfl⟩

/-- A text with fewer than nine characters is refused. -/
lemma read_of_short (short : text.length < 9) (satellite : Bool) :
    read text satellite = .error (.shortProfile (String.ofList text)) := by
  unfold read
  split
  · simp only [List.length_cons] at short
    omega
  · rfl

/-- Any other text has nine characters to read. -/
lemma exists_nine (long : 9 ≤ text.length) :
    ∃ port size atmosphere hydro population government law separator tech rest,
      text = port :: size :: atmosphere :: hydro :: population :: government :: law :: separator ::
        tech :: rest := by
  match text, long with
  | port :: size :: atmosphere :: hydro :: population :: government :: law :: separator :: tech ::
      rest, _ => exact ⟨port, size, atmosphere, hydro, population, government, law, separator, tech,
        rest, rfl⟩

/-- A text that spells a profile has nine characters at least. -/
lemma length_of_read (h : read text satellite = .ok p) : 9 ≤ text.length := by
  by_contra short
  rw [read_of_short (by omega)] at h
  cases h

/-- What a text spells is in range.

**Proof sketch.** The text is at least nine characters long, or it is refused.  Each digit was read
from one character, so it is in range by the lemmas on single digits. -/
theorem inRange_of_read (h : read text satellite = .ok p) : p.InRange (leastSize satellite) := by
  obtain ⟨_, _, _, _, _, _, _, _, _, _, rfl⟩ := exists_nine (length_of_read h)
  obtain ⟨size, atmosphere, hydro, population, government, law, tech, -⟩ := read_eq_ok_iff.mp h
  exact ⟨SizeDigit.range_of_read size, Digit.range_of_read atmosphere, Digit.range_of_read hydro,
    Digit.range_of_read population, Digit.range_of_read government, Digit.range_of_read law,
    Digit.range_of_read tech⟩

/-- A profile whose digits from the atmosphere on are in range has a text if its size has a
digit. -/
lemma exists_write_of_size {least : Int} (h : p.InRange least)
    (written : ∃ digit, SizeDigit.write p.size name satellite mainWorld = .ok digit) :
    ∃ text, p.write name satellite mainWorld = .ok text := by
  obtain ⟨size, hsize⟩ := written
  obtain ⟨atmosphere, hatmosphere⟩ := Digit.exists_write h.atmosphere.1 h.atmosphere.2
  obtain ⟨hydro, hhydro⟩ := Digit.exists_write h.hydro.1 h.hydro.2
  obtain ⟨population, hpopulation⟩ := Digit.exists_write h.population.1 h.population.2
  obtain ⟨government, hgovernment⟩ := Digit.exists_write h.government.1 h.government.2
  obtain ⟨law, hlaw⟩ := Digit.exists_write h.law.1 h.law.2
  obtain ⟨tech, htech⟩ := Digit.exists_write h.tech.1 h.tech.2
  exact ⟨_, write_eq_ok_iff.mpr ⟨size, hsize, atmosphere, hatmosphere, hydro, hhydro, population,
    hpopulation, government, hgovernment, law, hlaw, tech, htech, rfl⟩⟩

/-- What is in range has a text, whatever the name of its world and whether it is the main one. -/
theorem InRange.exists_write (h : p.InRange (leastSize satellite)) (name : String)
    (mainWorld : Bool) : ∃ text, p.write name satellite mainWorld = .ok text :=
  exists_write_of_size h (SizeDigit.exists_write h.size.1 h.size.2 name mainWorld)

/-- The text of a profile has nine characters and an ordinary separator, and it reads back as the
profile, except that a body which is no satellite has no size below zero. -/
theorem read_write (h : p.write name satellite mainWorld = .ok text) :
    text.length = 9 ∧ oddSeparator? text = none ∧
      read text satellite = .ok { p with size := max (leastSize satellite) p.size } := by
  obtain ⟨_, hsize, _, hatmosphere, _, hhydro, _, hpopulation, _, hgovernment, _, hlaw, _, htech,
    rfl⟩ := write_eq_ok_iff.mp h
  refine ⟨rfl, rfl, read_eq_ok_iff.mpr ?_⟩
  exact ⟨SizeDigit.read_write hsize, Digit.read_write hatmosphere, Digit.read_write hhydro,
    Digit.read_write hpopulation, Digit.read_write hgovernment, Digit.read_write hlaw,
    Digit.read_write htech, Port.ofText_letter p.port⟩

end Digits

end Profile

/-- A world whose digits are in range has a profile text. -/
lemma World.exists_profileText {w : World} (h : w.profile.InRange (leastSize w.isSatellite)) :
    ∃ text, w.profileText = .ok text := by
  obtain ⟨text, htext⟩ := h.exists_write w.name w.isMain
  exact ⟨_, by rw [World.profileText, htext]; rfl⟩

end Starchart
