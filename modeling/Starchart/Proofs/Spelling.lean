import Mathlib.Data.List.Infix
import Starchart.Generator
import Starchart.Proofs.Digits
import Starchart.Proofs.Faults

/-!
# The spelling of profiles

Which worlds have a profile text, and which texts spell a profile.  The size is the one digit whose
range depends on the name and the role of its world, and the one that is read in more than one way.
A reader is told whether the world is a satellite and nothing else, and it looks at the first nine
characters alone.

## Main definitions

* `Starchart.World.Spellable` — worlds whose digits a profile text can show.
* `Starchart.Profile.IsSpelled` — texts that spell a profile.
* `Starchart.Profile.OddlySeparated` — texts with an unexpected separator.

## Main results

* `Starchart.SizeDigit.exists_write_iff` — the sizes that have a digit.
* `Starchart.World.profileText_reads_back` — the worlds that have a profile text, and what is read
  from it.
* `Starchart.Profile.exists_read_iff` — the texts that spell a profile.
* `Starchart.Profile.read_normalises` — the normal form of such a text.
-/

set_option autoImplicit false

namespace Starchart

/-- What fails a reading may be told in more general terms. -/
lemma ReadsAs.mono {α : Type} {x : Except Fault α} {F G : Fault → Prop} (h : ReadsAs x F)
    (imp : ∀ e, F e → G e) : ReadsAs x G :=
  fun e failed => imp e (h e failed)

/-- One text is mentioned in another where it is a block of neighbouring characters in it. -/
lemma Text.mentions_iff {word text : List Char} : mentions word text = true ↔ word <:+: text := by
  induction text with
  | nil => rw [mentions, List.isEmpty_iff, List.infix_nil]
  | cons c rest ih =>
    rw [mentions, Bool.or_eq_true, ih, List.isPrefixOf_iff_prefix, List.infix_cons_iff]

/-! ## Writing digits -/

namespace Digit

/-- A number outside of `0` to `15` has no digit. -/
lemma write_eq_error {value : Int} (outside : value < 0 ∨ 15 < value) :
    write value = .error (.digitOverflow value) := by
  unfold write
  split
  · have missing : all[value.toNat]? = none := by
      rw [List.getElem?_eq_none_iff]
      simp only [all, List.length_cons, List.length_nil]
      omega
    rw [missing]
  · rfl

/-- A number that has a digit lies between `0` and `15`. -/
lemma range_of_write {value : Int} {digit : Char} (h : write value = .ok digit) :
    0 ≤ value ∧ value ≤ 15 := by
  by_contra outside
  rw [write_eq_error (by omega)] at h
  cases h

/-- A number without a digit lies outside of `0` to `15`, and the fault names it. -/
lemma readsAs_write (value : Int) :
    ReadsAs (write value) fun e => (value < 0 ∨ 15 < value) ∧ e = .digitOverflow value := by
  by_cases outside : value < 0 ∨ 15 < value
  · rw [write_eq_error outside]
    exact readsAs_error ⟨outside, rfl⟩
  · obtain ⟨low, high⟩ := not_or.mp outside
    obtain ⟨digit, written⟩ := exists_write (Int.not_lt.mp low) (Int.not_lt.mp high)
    rw [written]
    exact readsAs_ok digit

end Digit

namespace SizeDigit

variable {size : Int} {name : String} {satellite mainWorld : Bool}

/-- Sizes that have a digit.  Satellites may be small bodies.  Of the other bodies the main world
and planetoids have a size from zero on, while for all the rest a size below zero is written as
well. -/
structure HasDigit (size : Int) (name : String) (satellite mainWorld : Bool) : Prop where
  le : size ≤ 15
  moon : satellite = true → -1 ≤ size
  planet : satellite = false → mainWorld = true ∨ "Planetoid".toList <:+: name.toList → 0 ≤ size

/-- A size that has a digit is written. -/
lemma HasDigit.exists_write (h : HasDigit size name satellite mainWorld) :
    ∃ digit, write size name satellite mainWorld = .ok digit := by
  unfold write
  split_ifs with small ring hidden zero
  · exact ⟨_, rfl⟩
  · exact ⟨_, rfl⟩
  · exact ⟨_, rfl⟩
  · exact ⟨_, rfl⟩
  · -- neither a small body nor one that is hidden in an `S`, so the size is above zero
    refine Digit.exists_write ?_ h.le
    cases satellite with
    | true =>
      have := h.moon rfl
      simp only [true_and] at small
      omega
    | false =>
      by_cases named : mainWorld = true ∨ "Planetoid".toList <:+: name.toList
      · exact h.planet rfl named
      · obtain ⟨other, plain⟩ := not_or.mp named
        rw [← Text.mentions_iff] at plain
        by_contra negative
        exact hidden ⟨by omega, other, nofun, plain⟩

/-- A size that is written has a digit.

**Proof sketch.** By the five ways in which a size is written: as that of a small moon, as a ring,
as that of another small body, as a zero, and as a plain digit. -/
lemma hasDigit_of_write {digit : Char} (h : write size name satellite mainWorld = .ok digit) :
    HasDigit size name satellite mainWorld := by
  unfold write at h
  split_ifs at h with small ring hidden zero
  · obtain ⟨rfl, rfl⟩ := small
    exact ⟨by decide, fun _ => by decide, nofun⟩
  · obtain ⟨rfl, rfl⟩ := ring
    exact ⟨by decide, fun _ => by decide, nofun⟩
  · obtain ⟨le, other, planet, plain⟩ := hidden
    rw [Text.mentions_iff] at plain
    exact ⟨by omega, fun moon => absurd moon planet, fun _ named => absurd named (by simp_all)⟩
  · exact ⟨by omega, fun _ => by omega, fun _ _ => by omega⟩
  · obtain ⟨nonneg, le⟩ := Digit.range_of_write h
    exact ⟨le, fun _ => by omega, fun _ _ => nonneg⟩

/-- Exactly the sizes that have a digit are written. -/
theorem exists_write_iff : (∃ digit, write size name satellite mainWorld = .ok digit) ↔
    HasDigit size name satellite mainWorld :=
  ⟨fun ⟨_, written⟩ => hasDigit_of_write written, HasDigit.exists_write⟩

/-- A size without a digit lies outside of `0` to `15`, and the fault names it. -/
lemma readsAs_write (size : Int) (name : String) (satellite mainWorld : Bool) :
    ReadsAs (write size name satellite mainWorld) fun e =>
      (size < 0 ∨ 15 < size) ∧ e = .digitOverflow size := by
  unfold write
  split_ifs
  · exact readsAs_ok _
  · exact readsAs_ok _
  · exact readsAs_ok _
  · exact readsAs_ok _
  · exact Digit.readsAs_write size

end SizeDigit

/-! ## Worlds that have a profile text -/

/-- The numbers that a profile writes as plain hexadecimal digits: all but the size. -/
def Profile.plainNumbers (p : Profile) : List Int :=
  [p.atmosphere, p.hydro, p.population, p.government, p.law, p.tech]

/-- What a profile cannot be written for is a number of it outside of `0` to `15`, which the fault
names.

**Proof sketch.** The numbers of a profile are written one after the other. The first that cannot be
written is the one that the fault names. -/
lemma Profile.readsAs_write (p : Profile) (name : String) (satellite mainWorld : Bool) :
    ReadsAs (p.write name satellite mainWorld) fun e =>
      ∃ value ∈ p.size :: p.plainNumbers, (value < 0 ∨ 15 < value) ∧ e = .digitOverflow value := by
  have digit : ∀ value ∈ p.plainNumbers, ReadsAs (Digit.write value) fun e =>
      ∃ value ∈ p.size :: p.plainNumbers, (value < 0 ∨ 15 < value) ∧ e = .digitOverflow value :=
    fun value mem => (Digit.readsAs_write value).mono fun _ h =>
      ⟨value, List.mem_cons_of_mem _ mem, h⟩
  refine ((SizeDigit.readsAs_write p.size name satellite mainWorld).mono fun _ h =>
    ⟨p.size, List.mem_cons_self, h⟩).bind fun _ => ?_
  exact (digit p.atmosphere (by simp [plainNumbers])).bind fun _ =>
    (digit p.hydro (by simp [plainNumbers])).bind fun _ =>
    (digit p.population (by simp [plainNumbers])).bind fun _ =>
    (digit p.government (by simp [plainNumbers])).bind fun _ =>
    (digit p.law (by simp [plainNumbers])).bind fun _ =>
    (digit p.tech (by simp [plainNumbers])).bind fun _ => readsAs_ok _

namespace World

variable {w : World} {text : String}

/-- Worlds whose digits a profile text can show. -/
structure Spellable (w : World) : Prop where
  size : SizeDigit.HasDigit w.profile.size w.name w.isSatellite w.isMain
  plain : ∀ value ∈ w.profile.plainNumbers, 0 ≤ value ∧ value ≤ 15

/-- The profile text of a world is that of its profile. -/
lemma profileText_eq_ok_iff : w.profileText = .ok text ↔
    w.profile.write w.name w.isSatellite w.isMain = .ok text.toList := by
  unfold profileText
  cases w.profile.write w.name w.isSatellite w.isMain with
  | ok chars =>
    refine ⟨fun h => ?_, fun h => ?_⟩
    · cases h
      rw [String.toList_ofList]
    · cases h
      rw [Except.map, String.ofList_toList]
  | error e => exact ⟨nofun, nofun⟩

/-- A spellable world has a profile text. -/
lemma Spellable.exists_profileText (h : w.Spellable) : ∃ text, w.profileText = .ok text := by
  have plain := h.plain
  simp only [Profile.plainNumbers, List.forall_mem_cons] at plain
  obtain ⟨atmosphere, hydro, population, government, law, tech, -⟩ := plain
  have inRange : w.profile.InRange w.profile.size :=
    ⟨⟨Int.le_refl _, h.size.le⟩, atmosphere, hydro, population, government, law, tech⟩
  obtain ⟨chars, written⟩ := Profile.exists_write_of_size inRange h.size.exists_write
  exact ⟨String.ofList chars, profileText_eq_ok_iff.mpr (by rw [String.toList_ofList, written])⟩

/-- A world that has a profile text is spellable. -/
lemma spellable_of_profileText (h : w.profileText = .ok text) : w.Spellable := by
  obtain ⟨_, size, _, atmosphere, _, hydro, _, population, _, government, _, law, _, tech, -⟩ :=
    Profile.write_eq_ok_iff.mp (profileText_eq_ok_iff.mp h)
  refine ⟨SizeDigit.hasDigit_of_write size, ?_⟩
  simp only [Profile.plainNumbers, List.forall_mem_cons]
  exact ⟨Digit.range_of_write atmosphere, Digit.range_of_write hydro,
    Digit.range_of_write population, Digit.range_of_write government, Digit.range_of_write law,
    Digit.range_of_write tech, nofun⟩

/-- **Profile texts read back.** A world has a profile text exactly if its size has a digit under
its name and role, and all its other numbers lie between `0` and `15`; otherwise the fault names a
number that does not.  With the name and the role of the world, the text is read without notice, and
what is read has the digits of the world, except that a size below zero of a body which is no
satellite is read as zero.

**Proof sketch.** A text is put together from single digits, each of which reads back.  The size of
a satellite is never below the least one where it is written; that of any other body is hidden in an
`S` if it is not positive. -/
theorem profileText_reads_back (w : World) :
    ((∃ text, w.profileText = .ok text) ↔ w.Spellable) ∧
      (¬w.Spellable → ∃ value ∈ w.profile.size :: w.profile.plainNumbers,
        (value < 0 ∨ 15 < value) ∧ w.profileText = .error (.digitOverflow value)) ∧
      ∀ text, w.profileText = .ok text → Profile.notices text = [] ∧
        World.ofProfileText w.name text w.isSatellite w.isMain = .ok
          { name := w.name, isSatellite := w.isSatellite, isMain := w.isMain,
            profile := if w.isSatellite = false ∧ w.profile.size < 0 then
              { w.profile with size := 0 } else w.profile } := by
  refine ⟨⟨fun ⟨_, h⟩ => spellable_of_profileText h, Spellable.exists_profileText⟩,
    fun unspellable => ?_, fun text h => ?_⟩
  · cases written : w.profile.write w.name w.isSatellite w.isMain with
    | ok chars =>
      have spelled : w.profileText = .ok (String.ofList chars) := by
        rw [profileText_eq_ok_iff, String.toList_ofList, written]
      exact absurd (spellable_of_profileText spelled) unspellable
    | error e =>
      obtain ⟨value, mem, outside, rfl⟩ := w.profile.readsAs_write _ _ _ e written
      exact ⟨value, mem, outside, by rw [profileText, written]; rfl⟩
  · obtain ⟨-, separated, back⟩ := Profile.read_write (profileText_eq_ok_iff.mp h)
    have size := (spellable_of_profileText h).size
    have kept : max (leastSize w.isSatellite) w.profile.size =
        if w.isSatellite = false ∧ w.profile.size < 0 then 0 else w.profile.size := by
      cases moon : w.isSatellite with
      | true =>
        have := size.moon moon
        simp only [leastSize, if_true, Bool.true_eq_false, false_and, if_false]
        omega
      | false =>
        simp only [leastSize, Bool.false_eq_true, if_false, true_and]
        split <;> omega
    refine ⟨by rw [Profile.notices, separated]; rfl, ?_⟩
    rw [ofProfileText, back, kept, Except.map]
    split <;> rfl

end World

/-! ## Reading digits -/

namespace Digit
variable {c : Char}

/-- A hexadecimal digit is an early character. -/
lemma toNat_lt_of_isHexDigit (hex : c.isHexDigit = true) : c.toNat < 128 := by
  simp only [Char.isHexDigit, Char.isDigit, Bool.or_eq_true, Bool.and_eq_true, decide_eq_true_eq,
    ge_iff_le, UInt32.le_iff_toNat_le] at hex
  have value : c.toNat = c.val.toNat := rfl
  have lower : 'f'.val.toNat = 102 := rfl
  have upper : 'F'.val.toNat = 70 := rfl
  have nine : '9'.val.toNat = 57 := rfl
  omega

/-- The upper case of a late character is no digit.

**Proof sketch.** The upper case of a late character is that character, a longer text, or one of the
two Latin letters that two late characters are capitalised to. Neither letter is a digit. -/
lemma capitals_ne_of_le (late : 128 ≤ c.toNat) : ∀ digit ∈ all, Text.capitals c ≠ [digit] := by
  intro digit mem same
  have early : ∀ digit ∈ all, digit.toNat < 128 ∧ digit ≠ 'I' ∧ digit ≠ 'S' := by simp [all]
  obtain ⟨small, notI, notS⟩ := early digit mem
  unfold Text.capitals at same
  split at same
  · rename_i between
    have high : c.toNat ≤ 122 := between.2
    omega
  · split at same <;> simp only [List.cons.injEq, and_true, reduceCtorEq, and_false] at same
    · exact notI same.symm
    · exact notS same.symm
    · subst same
      omega

/-- The characters whose upper case is one of the sixteen digits are the hexadecimal digits in
either case. -/
lemma any_capitals (c : Char) :
    (all.any fun digit => Text.capitals c == [digit]) = c.isHexDigit := by
  by_cases early : c.toNat < 128
  · have table : ∀ n < 128, (all.any fun digit => Text.capitals (Char.ofNat n) == [digit]) =
        (Char.ofNat n).isHexDigit := by decide
    have row := table c.toNat early
    rwa [Char.ofNat_toNat] at row
  · rw [Bool.eq_iff_iff]
    refine iff_of_false (fun some => ?_) fun hex => early (toNat_lt_of_isHexDigit hex)
    obtain ⟨digit, mem, same⟩ := List.any_eq_true.mp some
    exact capitals_ne_of_le (by omega) digit mem (beq_iff_eq.mp same)

/-- What is read as a digit is a hexadecimal one, and any other character is named by the fault. -/
lemma read_cases (c : Char) : (∃ value, read [c] = .ok value) ∧ c.isHexDigit = true ∨
    read [c] = .error (.notHexDigit (String.ofList [c])) ∧ c.isHexDigit = false := by
  rw [← any_capitals, ← List.findIdx?_isSome]
  cases found : all.findIdx? (fun digit => Text.capitals c == [digit]) with
  | some value => exact .inl ⟨⟨value, by simp only [read, found]⟩, rfl⟩
  | none => exact .inr ⟨by simp only [read, found], rfl⟩

/-- Exactly the hexadecimal digits are read.

**Proof sketch.** A text of nine characters or more is read digit by digit, and each digit is read
exactly if it is one that its place allows. A shorter text is not read at all. -/
lemma exists_read_iff : (∃ value, read [c] = .ok value) ↔ c.isHexDigit = true := by
  rcases read_cases c with ⟨answered, hex⟩ | ⟨refused, other⟩
  · exact iff_of_true answered hex
  · rw [refused, other]
    exact iff_of_false (fun ⟨_, h⟩ => nomatch h) nofun

/-- A character that is not read is no hexadecimal digit, and the fault names it. -/
lemma readsAs_read (c : Char) :
    ReadsAs (read [c]) fun e => c.isHexDigit = false ∧ e = .notHexDigit (String.ofList [c]) := by
  intro e failed
  rcases read_cases c with ⟨⟨value, answered⟩, -⟩ | ⟨refused, other⟩
  · rw [answered] at failed
    cases failed
  · rw [refused] at failed
    cases failed
    exact ⟨other, rfl⟩
end Digit

namespace SizeDigit

/-- Characters that are read as a size: digits, and what becomes an `S` or an `R` in upper case. -/
def IsSpelled (c : Char) : Prop :=
  c.isHexDigit = true ∨ Text.upper [c] = ['S'] ∨ Text.upper [c] = ['R']

/-- Exactly these characters are read as a size. -/
lemma exists_read_iff (c : Char) (satellite : Bool) :
    (∃ size, read [c] satellite = .ok size) ↔ IsSpelled c := by
  unfold read IsSpelled
  by_cases small : Text.upper [c] = ['S']
  · rw [if_pos small]
    exact iff_of_true ⟨_, rfl⟩ (.inr (.inl small))
  by_cases ring : Text.upper [c] = ['R']
  · rw [if_neg small, if_pos ring]
    exact iff_of_true ⟨_, rfl⟩ (.inr (.inr ring))
  · rw [if_neg small, if_neg ring, Digit.exists_read_iff]
    exact ⟨.inl, fun h => h.resolve_right (not_or.mpr ⟨small, ring⟩)⟩

/-- A character that is not read as a size is no hexadecimal digit, and the fault names it. -/
lemma readsAs_read (c : Char) (satellite : Bool) : ReadsAs (read [c] satellite) fun e =>
    c.isHexDigit = false ∧ e = .notHexDigit (String.ofList [c]) := by
  unfold read
  split
  · exact readsAs_ok _
  · split
    · exact readsAs_ok _
    · exact Digit.readsAs_read c

end SizeDigit

/-! ## Texts that spell a profile -/

namespace Profile

/-- Texts that spell a profile: at least nine characters, of which the second is a size and the
third to seventh and the ninth are hexadecimal digits in either case. -/
structure IsSpelled (text : List Char) : Prop where
  long : 9 ≤ text.length
  size : ∀ c, text[1]? = some c → SizeDigit.IsSpelled c
  plain : ∀ i ∈ [2, 3, 4, 5, 6, 8], ∀ c, text[i]? = some c → c.isHexDigit = true

/-- Texts with a separator that is neither a hyphen nor a blank. Where nothing else is wrong with
them they are read, with a warning. -/
structure OddlySeparated (text : List Char) (separator : Char) : Prop where
  long : 9 ≤ text.length
  present : text[7]? = some separator
  odd : separator ≠ '-' ∧ separator ≠ ' '

section Reading

variable {port size atmosphere hydro population government law separator tech : Char}
  {rest text : List Char} {satellite : Bool}

/-- What the first nine characters have to be for a text to spell a profile. -/
lemma isSpelled_nine_iff :
    IsSpelled (port :: size :: atmosphere :: hydro :: population :: government :: law ::
        separator :: tech :: rest) ↔
      SizeDigit.IsSpelled size ∧ atmosphere.isHexDigit = true ∧ hydro.isHexDigit = true ∧
        population.isHexDigit = true ∧ government.isHexDigit = true ∧ law.isHexDigit = true ∧
        tech.isHexDigit = true := by
  constructor
  · rintro ⟨-, size, plain⟩
    simp only [List.forall_mem_cons] at plain
    obtain ⟨atmosphere, hydro, population, government, law, tech, -⟩ := plain
    exact ⟨size _ rfl, atmosphere _ rfl, hydro _ rfl, population _ rfl, government _ rfl,
      law _ rfl, tech _ rfl⟩
  · rintro ⟨size, atmosphere, hydro, population, government, law, tech⟩
    refine ⟨by simp only [List.length_cons]; omega, fun c h => Option.some.inj h ▸ size, ?_⟩
    simp only [List.forall_mem_cons]
    exact ⟨fun c h => Option.some.inj h ▸ atmosphere, fun c h => Option.some.inj h ▸ hydro,
      fun c h => Option.some.inj h ▸ population, fun c h => Option.some.inj h ▸ government,
      fun c h => Option.some.inj h ▸ law, fun c h => Option.some.inj h ▸ tech, nofun⟩

/-- Exactly the texts that spell a profile are read. -/
theorem exists_read_iff : (∃ p, read text satellite = .ok p) ↔ IsSpelled text := by
  by_cases long : 9 ≤ text.length
  · obtain ⟨port, size, atmosphere, hydro, population, government, law, separator, tech, rest,
      rfl⟩ := exists_nine long
    rw [isSpelled_nine_iff, ← SizeDigit.exists_read_iff size satellite]
    simp only [← Digit.exists_read_iff]
    constructor
    · rintro ⟨p, h⟩
      obtain ⟨size, atmosphere, hydro, population, government, law, tech, -⟩ := read_eq_ok_iff.mp h
      exact ⟨⟨_, size⟩, ⟨_, atmosphere⟩, ⟨_, hydro⟩, ⟨_, population⟩, ⟨_, government⟩, ⟨_, law⟩,
        ⟨_, tech⟩⟩
    · rintro ⟨⟨_, size⟩, ⟨_, atmosphere⟩, ⟨_, hydro⟩, ⟨_, population⟩, ⟨_, government⟩, ⟨_, law⟩,
        ⟨_, tech⟩⟩
      exact ⟨⟨_, _, _, _, _, _, _, _⟩, read_eq_ok_iff.mpr
        ⟨size, atmosphere, hydro, population, government, law, tech, rfl⟩⟩
  · rw [read_of_short (by omega)]
    exact iff_of_false (fun ⟨_, h⟩ => nomatch h) fun h => long h.long

/-- A text with nine characters is refused for one of them, which is no hexadecimal digit and which
the fault names. -/
lemma readsAs_read (long : 9 ≤ text.length) (satellite : Bool) : ReadsAs (read text satellite) fun e =>
    ∃ c ∈ text.take 9, c.isHexDigit = false ∧ e = .notHexDigit (String.ofList [c]) := by
  obtain ⟨port, size, atmosphere, hydro, population, government, law, separator, tech, rest, rfl⟩ :=
    exists_nine long
  have digit : ∀ c ∈ [size, atmosphere, hydro, population, government, law, separator, tech],
      ReadsAs (Digit.read [c]) fun e => ∃ c ∈ [port, size, atmosphere, hydro, population,
        government, law, separator, tech], c.isHexDigit = false ∧
          e = .notHexDigit (String.ofList [c]) :=
    fun c mem => (Digit.readsAs_read c).mono fun _ h => ⟨c, List.mem_cons_of_mem _ mem, h⟩
  refine ((SizeDigit.readsAs_read size satellite).mono fun _ h => ⟨size, by simp, h⟩).bind
    fun _ => ?_
  exact (digit atmosphere (by simp)).bind fun _ => (digit hydro (by simp)).bind fun _ =>
    (digit population (by simp)).bind fun _ => (digit government (by simp)).bind fun _ =>
    (digit law (by simp)).bind fun _ => (digit tech (by simp)).bind fun _ => readsAs_ok _

/-- Nothing after the ninth character bears on what is read. -/
lemma read_take (text : List Char) (satellite : Bool) :
    read (text.take 9) satellite = read text satellite := by
  by_cases long : 9 ≤ text.length
  · obtain ⟨_, _, _, _, _, _, _, _, _, _, rfl⟩ := exists_nine long
    rfl
  · rw [List.take_of_length_le (by omega)]

/-- The separator that a text is told to have is the odd one at its place. -/
lemma oddSeparator?_eq_some_iff :
    oddSeparator? text = some separator ↔ OddlySeparated text separator := by
  constructor
  · intro h
    unfold oddSeparator? at h
    split at h
    · split_ifs at h with ordinary
      cases h
      exact ⟨by simp only [List.length_cons]; omega, rfl, not_or.mp ordinary⟩
    · cases h
  · rintro ⟨long, present, odd⟩
    obtain ⟨_, _, _, _, _, _, _, c, _, _, rfl⟩ := exists_nine long
    cases present
    exact if_neg (not_or.mpr odd)

end Reading

/-- **Reading normalises.** A text spells a profile exactly if it has nine characters that do,
whoever is to read it; otherwise the fault says that the text is too short, or which of them is no
hexadecimal digit.  What follows the ninth character does not matter.  A separator at its place that
is neither a hyphen nor a blank is noted, and nothing else is.  What was read is written, under any
name and for any role, as a text of nine characters that is read without notice and spells the same
profile.

**Proof sketch.** Reading goes character by character, and the characters that have the upper case
of a digit are known.  What was read is in range, so it is written, and what is written reads back;
sizes below the least one are not in range. -/
theorem read_normalises (text : String) (satellite : Bool) :
    ((∃ p, read text.toList satellite = .ok p) ↔ IsSpelled text.toList) ∧
      (¬IsSpelled text.toList → ∃ fault, read text.toList satellite = .error fault ∧
        (text.length < 9 ∧ fault = .shortProfile text ∨
          9 ≤ text.length ∧ ∃ c ∈ text.toList.take 9, c.isHexDigit = false ∧
            fault = .notHexDigit (String.ofList [c]))) ∧
      (∀ other : String, other.toList.take 9 = text.toList.take 9 →
        read other.toList satellite = read text.toList satellite) ∧
      (∀ separator, OddlySeparated text.toList separator →
        notices text = [oddSeparator text separator]) ∧
      ((∀ separator, ¬OddlySeparated text.toList separator) → notices text = []) ∧
      ∀ p, read text.toList satellite = .ok p → ∀ name mainWorld, ∃ normal,
        p.write name satellite mainWorld = .ok normal ∧ normal.length = 9 ∧
          notices (String.ofList normal) = [] ∧ read normal satellite = .ok p := by
  refine ⟨exists_read_iff, fun unspelled => ?_, fun other same => ?_, fun separator odd => ?_,
    fun ordinary => ?_, fun p h name mainWorld => ?_⟩
  · cases h : read text.toList satellite with
    | ok p => exact absurd (exists_read_iff.mp ⟨p, h⟩) unspelled
    | error e =>
      refine ⟨e, rfl, ?_⟩
      rw [← String.length_toList]
      by_cases long : 9 ≤ text.toList.length
      · exact .inr ⟨long, readsAs_read long satellite e h⟩
      · rw [read_of_short (by omega), String.ofList_toList] at h
        exact .inl ⟨by omega, (Except.error.inj h).symm⟩
  · rw [← read_take, same, read_take]
  · rw [notices, oddSeparator?_eq_some_iff.mpr odd]
    rfl
  · cases h : oddSeparator? text.toList with
    | some separator => exact absurd (oddSeparator?_eq_some_iff.mp h) (ordinary separator)
    | none => rw [notices, h]; rfl
  · have inRange := inRange_of_read h
    obtain ⟨normal, written⟩ := inRange.exists_write name mainWorld
    obtain ⟨nine, separated, back⟩ := read_write written
    rw [Int.max_eq_right inRange.size.1] at back
    refine ⟨normal, written, nine, ?_, back⟩
    rw [notices, String.toList_ofList, separated]
    rfl

/-- An odd starport, a size in an old hand, digits in either case and a remark at the end. -/
example : ((read "qſ0aB9f_c, twice".toList true).bind fun p => p.write "" true false) =
    .ok "YS0AB9F-C".toList := by rfl

end Profile

end Starchart
