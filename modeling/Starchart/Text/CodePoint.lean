/-!
# Texts as code points

A file of settings can spell half of a surrogate pair without its partner, and so can an argument of
the command line whose bytes spell no text.  No character stands for such a half, so what comes from
outside is a sequence of code points rather than of characters.

## Main definitions

* `Starchart.CodePoint` — the number of a character or of half a pair.
* `Starchart.Text` — a sequence of code points.
* `Starchart.Text.ofString` — the code points of a string.
* `Starchart.Text.plain` — a text with a character in the place of each code point.
* `Starchart.Text.isWhole` — whether a text is free of halves, and so can be written out.
-/

set_option autoImplicit false

namespace Starchart

/-- The number of a character, or of half a pair that stands alone. -/
structure CodePoint where
  value : Nat
  bounded : value < 0x110000
  deriving DecidableEq, Repr

namespace CodePoint

/-- The character that takes the place of half a pair. -/
def replacement : Char := '\ufffd'

/-- The code point of a character. -/
def ofChar (c : Char) : CodePoint :=
  ⟨c.toNat, Nat.lt_of_not_le fun high => by
    have valid : c.toNat < 0xd800 ∨ 0xdfff < c.toNat ∧ c.toNat < 0x110000 := c.valid
    omega⟩

instance : Inhabited CodePoint := ⟨ofChar replacement⟩

/-- The code point with a given number; there is none beyond the last one. -/
def ofNat? (n : Nat) : Option CodePoint :=
  if bounded : n < 0x110000 then some ⟨n, bounded⟩ else none

/-- The character with the number of a code point; half a pair has none. -/
def char? (p : CodePoint) : Option Char :=
  if valid : p.value.isValidChar then some (Char.ofNatAux p.value valid) else none

/-- The character of a code point, or the replacement character for half a pair. -/
def char (p : CodePoint) : Char := p.char?.getD replacement

/-- A character is that of its own code point. -/
@[simp] theorem char?_ofChar (c : Char) : (ofChar c).char? = some c := by
  have valid : (ofChar c).value.isValidChar := c.valid
  rw [char?, dif_pos valid]
  rfl

/-- Every character stands for itself. -/
@[simp] theorem char_ofChar (c : Char) : (ofChar c).char = c := by
  rw [char, char?_ofChar, Option.getD_some]

end CodePoint

/-- A text: a sequence of code points. -/
structure Text where
  points : List CodePoint
  deriving DecidableEq, Repr, Inhabited

namespace Text

/-- The code points of a string. -/
def ofString (s : String) : Text := ⟨s.toList.map CodePoint.ofChar⟩

instance : Coe String Text := ⟨ofString⟩

/-- A text with a character in the place of each code point, for what depends on single characters
and their places.  Half a pair is no character and counts as the replacement character; only a whole
text may be written out in this form. -/
def plain (t : Text) : String := String.ofList (t.points.map CodePoint.char)

/-- A string is taken as it is. -/
@[simp] theorem plain_ofString (s : String) : (ofString s).plain = s := by
  simp [plain, ofString, Function.comp_def]

/-- Whether every code point of a text is a character. -/
def isWhole (t : Text) : Bool := t.points.all fun p => p.char?.isSome

end Text

end Starchart
