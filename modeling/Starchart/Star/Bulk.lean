import Starchart.Star.Zone

/-!
# Luminosity and mass

The luminosity of a star in suns and its mass in solar masses, by spectral type, table column and
luminosity class.  A value of zero says that no such star is known.

## Main definitions

* `Starchart.Star.brightness` — the luminosity of a star.
* `Starchart.Star.mass` — the mass of a star.
-/

set_option autoImplicit false

namespace Starchart

/-- One value for each luminosity class. -/
structure ByClass where
  Ia : Float
  Ib : Float
  II : Float
  III : Float
  IV : Float
  V : Float
  VI : Float
  D : Float

/-- The value of a luminosity class. -/
def ByClass.get (row : ByClass) : LuminosityClass → Float
  | .Ia => row.Ia
  | .Ib => row.Ib
  | .II => row.II
  | .III => row.III
  | .IV => row.IV
  | .V => row.V
  | .VI => row.VI
  | .D => row.D

/-- Luminosities in suns, by spectral type and column. -/
def ByClass.brightness : SpectralType → Column → ByClass
  | .O, .early => ⟨0.0, 0.0, 0.0, 0.0, 0.0, 0.0, 0.0, 0.0⟩
  | .O, .late => ⟨0.0, 0.0, 0.0, 0.0, 0.0, 0.0, 0.0, 0.0⟩
  | .B, .early => ⟨560000.0, 270000.0, 170000.0, 107000.0, 81000.0, 56000.0, 0.0, 0.46⟩
  | .B, .late => ⟨204000.0, 46700.0, 18600.0, 6700.0, 2000.0, 1400.0, 0.0, 0.46⟩
  | .A, .early => ⟨107000.0, 15000.0, 2200.0, 280.0, 156.0, 90.0, 0.0, 0.005⟩
  | .A, .late => ⟨81000.0, 11700.0, 850.0, 90.0, 37.0, 16.0, 0.0, 0.005⟩
  | .F, .early => ⟨61000.0, 7400.0, 600.0, 53.0, 19.0, 8.1, 0.0, 0.0003⟩
  | .F, .late => ⟨51000.0, 5100.0, 510.0, 43.0, 12.0, 3.5, 0.977, 0.0003⟩
  | .G, .early => ⟨67000.0, 6100.0, 560.0, 50.0, 6.5, 1.21, 0.322, 0.00006⟩
  | .G, .late => ⟨89000.0, 8100.0, 740.0, 75.0, 4.9, 0.67, 0.186, 0.00006⟩
  | .K, .early => ⟨100000.0, 11700.0, 890.0, 95.0, 4.67, 0.42, 0.117, 0.00004⟩
  | .K, .late => ⟨107000.0, 20400.0, 2450.0, 320.0, 0.0, 0.08, 0.025, 0.00004⟩
  | .M, .early => ⟨117000.0, 46000.0, 4600.0, 470.0, 0.0, 0.04, 0.011, 0.00003⟩
  | .M, .late => ⟨129000.0, 89000.0, 14900.0, 2280.0, 0.0, 0.007, 0.002, 0.00003⟩

/-- Masses in solar masses, by spectral type and column. -/
def ByClass.mass : SpectralType → Column → ByClass
  | .O, .early => ⟨0.0, 0.0, 0.0, 0.0, 0.0, 0.0, 0.0, 0.0⟩
  | .O, .late => ⟨0.0, 0.0, 0.0, 0.0, 0.0, 0.0, 0.0, 0.0⟩
  | .B, .early => ⟨60.0, 50.0, 30.0, 25.0, 20.0, 18.0, 0.0, 0.26⟩
  | .B, .late => ⟨30.0, 25.0, 20.0, 15.0, 10.0, 6.5, 0.0, 0.26⟩
  | .A, .early => ⟨18.0, 16.0, 14.0, 12.0, 6.0, 3.2, 0.0, 0.36⟩
  | .A, .late => ⟨15.0, 13.0, 11.0, 9.0, 4.0, 2.1, 0.0, 0.36⟩
  | .F, .early => ⟨13.0, 12.0, 10.0, 8.0, 2.5, 1.7, 0.0, 0.42⟩
  | .F, .late => ⟨12.0, 10.0, 8.1, 5.0, 2.0, 1.3, 0.8, 0.42⟩
  | .G, .early => ⟨12.0, 10.0, 8.1, 2.5, 1.75, 1.04, 0.6, 0.63⟩
  | .G, .late => ⟨13.0, 12.0, 10.0, 3.2, 2.0, 0.94, 0.528, 0.63⟩
  | .K, .early => ⟨14.0, 13.0, 11.0, 4.0, 2.3, 0.825, 0.43, 0.83⟩
  | .K, .late => ⟨18.0, 16.0, 14.0, 5.0, 0.0, 0.57, 0.33, 0.83⟩
  | .M, .early => ⟨20.0, 16.0, 14.0, 6.3, 0.0, 0.489, 0.154, 1.11⟩
  | .M, .late => ⟨25.0, 20.0, 16.0, 7.4, 0.0, 0.331, 0.104, 1.11⟩

/-- The luminosity of a star in suns. -/
def Star.brightness (star : Star) : Except Fault Float :=
  star.column.map fun column => (ByClass.brightness star.spectral column).get star.luminosity

/-- The mass of a star in solar masses. -/
def Star.mass (star : Star) : Except Fault Float :=
  star.column.map fun column => (ByClass.mass star.spectral column).get star.luminosity

end Starchart
