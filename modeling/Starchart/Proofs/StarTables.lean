import Starchart.Star.Bulk
import Starchart.Star.Rolls
import Starchart.Proofs.Bodies

/-!
# The tables of stars

Masses, luminosities and zones are tabulated for the stars that are known to exist, and the three
tables agree about which these are.  A star whose class was corrected is one of them unless it is of
type O, and no roll gives that type.

## Main definitions

* `Starchart.Star.Known` — stars that all tables know.
* `Starchart.Star.Possible` — stars whose class goes together with their type.

## Main results

* `Starchart.Star.known_iff` — the tables know exactly the possible stars.
* `Starchart.Star.known_corrected` — they know every star that is corrected and not of type O.
-/

set_option autoImplicit false

namespace Starchart.Star

/-- A star that all tables know: it has a mass, a luminosity and at least one zone. What a survey of
a world looks up about its star is there. -/
structure Known (star : Star) : Prop where
  classified : star.Classified
  mass : ∃ mass, star.mass = .ok mass ∧ 0 < mass
  brightness : ∃ brightness, star.brightness = .ok brightness ∧ 0 < brightness
  zones : ∃ row, star.zones = .ok row ∧ row ≠ Zones.none

/-- A star that is not of type O and whose class goes together with its type and subtype. -/
def Possible (star : Star) : Prop :=
  star.spectral ≠ .O ∧ star.possibleClass = star.luminosity

/-- Whether a star is possible can be evaluated. -/
instance decidablePossible (star : Star) : Decidable star.Possible :=
  inferInstanceAs (Decidable (_ ∧ _))

/-! ## Entries of the tables -/

/-- The tables of masses, luminosities and zones have entries for the same stars, namely for the
possible ones. -/
lemma entries_iff (spectral : SpectralType) (column : Column) (luminosity : LuminosityClass) :
    (0 < (ByClass.mass spectral column).get luminosity ↔
      Possible ⟨spectral, column.subtype, luminosity⟩) ∧
    (0 < (ByClass.brightness spectral column).get luminosity ↔
      Possible ⟨spectral, column.subtype, luminosity⟩) ∧
    (Zones.entry luminosity spectral column ≠ Zones.none ↔
      Possible ⟨spectral, column.subtype, luminosity⟩) := by
  cases spectral <;> cases column <;> cases luminosity <;> decide +kernel

/-- Whether a star is possible depends on its column only. -/
lemma possible_iff_column {star : Star} {column : Column} (h : star.column = .ok column) :
    star.Possible ↔ Possible ⟨star.spectral, column.subtype, star.luminosity⟩ := by
  obtain ⟨spectral, subtype, luminosity⟩ := star
  have same : possibleClass ⟨spectral, subtype, luminosity⟩ =
      possibleClass ⟨spectral, column.subtype, luminosity⟩ := by
    unfold Star.column at h
    dsimp only at h
    split_ifs at h with early late
    all_goals cases h
    · simp [possibleClass, Column.subtype, early.2, show ¬5 ≤ subtype by omega]
    · simp [possibleClass, Column.subtype, late.1, show ¬subtype ≤ 4 by omega]
  simp only [Possible, same]

/-- **The tables agree.**  They know exactly the stars with a subtype from `0` to `9` that are
possible.

**Proof sketch.** Tables have one entry for all stars of a type and class within a column, and so
has the notion of a possible star. -/
theorem known_iff {star : Star} : star.Known ↔ star.Classified ∧ star.Possible := by
  constructor
  · intro known
    obtain ⟨column, hcolumn⟩ := known.classified.exists_column
    obtain ⟨row, zoned, some⟩ := known.zones
    rw [zones, hcolumn] at zoned
    cases zoned
    refine ⟨known.classified, (possible_iff_column hcolumn).mpr ?_⟩
    exact (entries_iff _ _ _).2.2.mp some
  · rintro ⟨classified, possible⟩
    obtain ⟨column, hcolumn⟩ := classified.exists_column
    have headed := (possible_iff_column hcolumn).mp possible
    obtain ⟨mass, brightness, zones⟩ := entries_iff star.spectral column star.luminosity
    exact {
      classified := classified
      mass := ⟨_, by rw [Star.mass, hcolumn]; rfl, mass.mpr headed⟩
      brightness := ⟨_, by rw [Star.brightness, hcolumn]; rfl, brightness.mpr headed⟩
      zones := ⟨_, by rw [Star.zones, hcolumn]; rfl, zones.mpr headed⟩ }

/-! ## Rolled stars -/

/-- Correcting the class of a star once suffices. -/
lemma possibleClass_corrected (star : Star) :
    star.corrected.possibleClass = star.corrected.luminosity := by
  obtain ⟨spectral, subtype, luminosity⟩ := star
  cases luminosity with
  | IV =>
    by_cases cool : spectral = .K ∧ 5 ≤ subtype ∨ spectral = .M <;>
      simp [corrected, possibleClass, cool]
  | VI =>
    by_cases hot : spectral.rank < SpectralType.F.rank ∨ spectral = .F ∧ subtype ≤ 4 <;>
      simp [corrected, possibleClass, hot]
  | _ => rfl

/-- A star with a corrected class is known, unless it is of type O. -/
lemma known_corrected {spectral : SpectralType} {subtype : Int} {luminosity : LuminosityClass}
    (low : 0 ≤ subtype) (high : subtype < 10) (other : spectral ≠ .O) :
    (corrected ⟨spectral, subtype, luminosity⟩).Known := by
  refine known_iff.mpr ⟨⟨low, Int.le_of_lt_add_one high⟩, other, ?_⟩
  exact possibleClass_corrected _

/-- No primary star is of type O. -/
lemma primaryType_ne (roll : Int) : primaryType roll ≠ .O := by
  unfold primaryType
  split_ifs <;> simp

/-- No companion is of type O. -/
lemma companionType_ne (roll : Int) : companionType roll ≠ .O := by
  unfold companionType
  split_ifs <;> simp

end Starchart.Star
