import Mathlib.Algebra.Group.Nat.Defs
import Mathlib.Data.List.Chain
import Starchart.Json.Reader
import Starchart.Json.Writer
import Starchart.Proofs.Answers

/-!
# Tokens of files

A file spells texts in ASCII, and whole numbers in digits.  Both are read back, with two exceptions:
two halves of a pair that stand side by side in a text are read as the one character, and a whole
number with too many digits is not read at all.  Nothing that was read from a file is one of these.

## Main definitions

* `Starchart.Text.Joined` — texts in which no two halves of a pair stand side by side.
* `Starchart.Json.Spells` — the ways in which a file spells a code point.

## Main results

* `Starchart.Json.readText_filePoints` — a joined text is read back.
* `Starchart.Json.joined_of_readText` — every text that is read is joined.
* `Starchart.Json.readNumber_toDigits` — a whole number of ordinary length is read back.
* `Starchart.Json.readNumber_cases` — every whole number that is read has ordinary length.
-/

set_option autoImplicit false

namespace Starchart

open Json (isHigh isLow)

/-! ## Halves of pairs -/

namespace Json

/-- The first halves of pairs in numbers. -/
lemma isHigh_iff {unit : Nat} : isHigh unit = true ↔ 0xd800 ≤ unit ∧ unit < 0xdc00 := by
  simp [isHigh]

/-- The second halves of pairs in numbers. -/
lemma isLow_iff {unit : Nat} : isLow unit = true ↔ 0xdc00 ≤ unit ∧ unit < 0xe000 := by
  simp [isLow]

end Json

namespace CodePoint

/-- Two code points that are the halves of a pair: where they stand side by side in a file, they are
read as one character. -/
def Pairs (p q : CodePoint) : Prop := isHigh p.value = true ∧ isLow q.value = true

/-- The number of a character. -/
lemma value_ofChar (c : Char) : (ofChar c).value = c.toNat := rfl

/-- A character is not the first half of a pair. -/
lemma not_isHigh_ofChar (c : Char) : isHigh (ofChar c).value ≠ true := by
  have valid : c.toNat < 0xd800 ∨ 0xdfff < c.toNat ∧ c.toNat < 0x110000 := c.valid
  rw [Ne, Json.isHigh_iff, value_ofChar]
  omega

/-- Nor is it the second half. -/
lemma not_isLow_ofChar (c : Char) : isLow (ofChar c).value ≠ true := by
  have valid : c.toNat < 0xd800 ∨ 0xdfff < c.toNat ∧ c.toNat < 0x110000 := c.valid
  rw [Ne, Json.isLow_iff, value_ofChar]
  omega

/-- A code point that is shown by a character other than the replacement is that character. -/
lemma eq_ofChar {p : CodePoint} {c : Char} (shown : p.char = c) (ne : c ≠ replacement) :
    p = ofChar c := by
  rw [char, char?] at shown
  by_cases valid : p.value.isValidChar
  · rw [dif_pos valid] at shown
    subst shown
    rfl
  · rw [dif_neg valid] at shown
    exact absurd shown.symm ne

end CodePoint

namespace Text

/-- A text in which no two halves of a pair stand side by side, the first before the second. -/
def Joined (t : Text) : Prop := t.points.IsChain fun p q => ¬p.Pairs q

/-- A string is joined. -/
lemma joined_ofString (s : String) : (ofString s).Joined := by
  apply List.Pairwise.isChain
  rw [ofString, List.pairwise_map]
  exact List.pairwise_of_forall fun c _ pair => CodePoint.not_isHigh_ofChar c pair.1

end Text

namespace Json

open Text (hexDigit hexPadded)

/-! ## Units -/

/-- A hexadecimal digit is read back. -/
lemma hexValue?_hexDigit : ∀ n < 16, hexValue? (hexDigit n) = some n := by decide

/-- A unit is read back from its four digits. -/
lemma readUnit_hexPadded {unit : Nat} (small : unit < 0x10000) (rest : List Char) :
    readUnit (hexPadded 4 unit ++ rest) = .ok (unit, rest) := by
  have digit : ∀ n, hexValue? (hexDigit (n % 16)) = some (n % 16) := fun n =>
    hexValue?_hexDigit _ (Nat.mod_lt _ (by decide))
  simp only [hexPadded, List.nil_append, List.cons_append, readUnit, digit]
  congr 2
  omega

/-- A character that is read as a hexadecimal digit has a value below sixteen. -/
lemma lt_of_hexValue? {c : Char} {n : Nat} (h : hexValue? c = some n) : n < 16 := by
  unfold hexValue? at h
  split_ifs at h with decimal lower upper
  · have : c.toNat ≤ 57 := decimal.2
    cases h
    omega
  · have : c.toNat ≤ 102 := lower.2
    cases h
    omega
  · have : c.toNat ≤ 70 := upper.2
    cases h
    omega

/-- A unit is below `2 ^ 16`. -/
lemma lt_of_readUnit {source rest : List Char} {unit : Nat} (h : readUnit source = .ok (unit, rest)) :
    unit < 0x10000 := by
  unfold readUnit at h
  split at h
  · split at h
    · rename_i ha hb hc hd
      cases h
      have := lt_of_hexValue? ha
      have := lt_of_hexValue? hb
      have := lt_of_hexValue? hc
      have := lt_of_hexValue? hd
      omega
    · cases h
  · cases h

/-! ## Escapes -/

/-- What stands behind a first half that stays alone: no second half in a unit. Otherwise the two
would be read as one character. -/
def Apart (after : List Char) : Prop :=
  ∀ more, after = '\\' :: 'u' :: more →
    ∃ unit rest, readUnit more = .ok (unit, rest) ∧ isLow unit ≠ true

/-- A code point is found by its number. -/
lemma readPoint_value (p : CodePoint) : readPoint p.value = .ok p := by
  rw [readPoint, CodePoint.ofNat?, dif_pos p.bounded]

/-- What is found by a number has that number. -/
lemma value_of_readPoint {n : Nat} {p : CodePoint} (h : readPoint n = .ok p) : p.value = n := by
  unfold readPoint CodePoint.ofNat? at h
  split_ifs at h
  cases h
  rfl

/-- A unit is read as the code point with its number, unless it forms a pair with the next one. -/
lemma readEscape_alone {p : CodePoint} {rest : List Char} (small : p.value < 0x10000)
    (apart : isHigh p.value = true → Apart rest) :
    readEscape (hexPadded 4 p.value ++ rest) = .ok (p, rest) := by
  refine bind_eq_ok_iff.mpr ⟨_, readUnit_hexPadded small rest,
    bind_eq_ok_iff.mpr ⟨p, readPoint_value p, ?_⟩⟩
  dsimp only
  split_ifs with high
  · split
    · rename_i more
      obtain ⟨unit, after, second, alone⟩ := apart high more rfl
      refine bind_eq_ok_iff.mpr ⟨_, second, ?_⟩
      rw [if_neg alone]
      rfl
    · rfl
  · rfl

/-- Two units that form a pair are read as one code point. -/
lemma readEscape_pair {first second : Nat} {p : CodePoint} (high : isHigh first = true)
    (low : isLow second = true)
    (paired : p.value = 0x10000 + (first - 0xd800) * 0x400 + (second - 0xdc00)) (rest : List Char) :
    readEscape (hexPadded 4 first ++ (unitEscape second ++ rest)) = .ok (p, rest) := by
  have bounds := isHigh_iff.mp high
  have bounds' := isLow_iff.mp low
  refine bind_eq_ok_iff.mpr ⟨_, readUnit_hexPadded (by omega) _,
    bind_eq_ok_iff.mpr ⟨_, readPoint_value ⟨first, by omega⟩, ?_⟩⟩
  dsimp only [unitEscape, List.cons_append]
  rw [if_pos high]
  refine bind_eq_ok_iff.mpr ⟨_, readUnit_hexPadded (by omega) rest, ?_⟩
  dsimp only
  rw [if_pos low, ← paired]
  exact bind_eq_ok_iff.mpr ⟨p, readPoint_value p, rfl⟩

/-- There is a code point for every number up to the last one. -/
lemma exists_readPoint {n : Nat} (bounded : n < 0x110000) : ∃ p, readPoint n = .ok p :=
  ⟨⟨n, bounded⟩, readPoint_value ⟨n, bounded⟩⟩

/-- Every number that an escape can come to is that of a code point, so that reading it fails only
where a unit is not spelled out: at once, or after the first half of a pair.

**Proof sketch.** A unit has four hexadecimal digits, so it is a code point. Two halves of a pair
lie in their ranges, so that the number they come to together is one as well. Nothing else can fail
but the units themselves. -/
lemma readEscape_fails {source : List Char} {e : Failure} (h : readEscape source = .error e) :
    readUnit source = .error e ∨ ∃ unit more, readUnit source = .ok (unit, '\\' :: 'u' :: more) ∧
      isHigh unit = true ∧ readUnit more = .error e := by
  rcases bind_eq_error_iff.mp h with first | ⟨⟨unit, rest⟩, first, h⟩
  · exact .inl first
  have small := lt_of_readUnit first
  obtain ⟨alone, named⟩ := exists_readPoint (n := unit) (by omega)
  replace h := bind_eq_error_iff.mp h
  rcases h with unnamed | ⟨_, -, h⟩
  · exact nomatch named.symm.trans unnamed
  split_ifs at h with high
  · split at h
    · rename_i more
      refine .inr ⟨unit, more, first, high, ?_⟩
      replace h := bind_eq_error_iff.mp h
      rcases h with next | ⟨⟨second, after⟩, -, h⟩
      · exact next
      dsimp only at h
      split_ifs at h with low
      · have bounds := isHigh_iff.mp high
        have bounds' := isLow_iff.mp low
        have bounded : 0x10000 + (unit - 0xd800) * 0x400 + (second - 0xdc00) < 0x110000 := by omega
        obtain ⟨paired, beyond⟩ := exists_readPoint bounded
        rcases bind_eq_error_iff.mp h with missing | ⟨_, -, h⟩
        · exact nomatch beyond.symm.trans missing
        · cases h
      · cases h
    · cases h
  · cases h

/-- What an escape is read as: its unit, which is no first half of a pair that follows, or else a
character beyond all units.

**Proof sketch.** By the cases of reading: a unit that is no first half stands alone, and so does a
first half without a second half in the next unit. Two halves make a character, whose number is
beyond all units. -/
lemma readEscape_cases {source rest : List Char} {p : CodePoint}
    (h : readEscape source = .ok (p, rest)) :
    readUnit source = .ok (p.value, rest) ∧ (isHigh p.value = true → Apart rest) ∨
      0x10000 ≤ p.value := by
  unfold readEscape at h
  obtain ⟨⟨unit, after⟩, first, h⟩ := bind_eq_ok_iff.mp h
  obtain ⟨alone, named, h⟩ := bind_eq_ok_iff.mp h
  obtain rfl := value_of_readPoint named
  split_ifs at h with high
  · split at h
    · rename_i more
      obtain ⟨⟨second, rest'⟩, next, h⟩ := bind_eq_ok_iff.mp h
      dsimp only at h
      split_ifs at h with low
      · obtain ⟨paired, beyond, h⟩ := bind_eq_ok_iff.mp h
        cases h
        -- the character of a pair is beyond all units
        rw [value_of_readPoint beyond]
        exact .inr (Nat.le_add_right_of_le (Nat.le_add_right _ _))
      · cases h
        refine .inl ⟨first, fun _ more' same' => ?_⟩
        cases same'
        exact ⟨second, rest', next, low⟩
    · rename_i other
      cases h
      exact .inl ⟨first, fun _ more same' => absurd same' (other more)⟩
  · cases h
    exact .inl ⟨first, fun high' => absurd high' high⟩

/-! ## Code points -/

/-- The ways in which a file spells a code point: a character may stand for itself, have a short
escape, or be told by its unit or its pair of units. The writer uses one of them for each code
point, and the reader takes them all. -/
inductive Spells : CodePoint → List Char → Prop
  | plain {c : Char} (unquoted : c ≠ '"') (unescaped : c ≠ '\\') (printed : 32 ≤ c.toNat) :
    Spells (.ofChar c) [c]
  | short {letter c : Char} (escape : shortEscape? letter = some c) :
    Spells (.ofChar c) ['\\', letter]
  | unit {p : CodePoint} (small : p.value < 0x10000) : Spells p (unitEscape p.value)
  | pair {p : CodePoint} {first second : Nat} (high : isHigh first = true)
    (low : isLow second = true)
    (paired : p.value = 0x10000 + (first - 0xd800) * 0x400 + (second - 0xdc00)) :
    Spells p (unitEscape first ++ unitEscape second)

/-- A file spells every code point in one of these ways.

**Proof sketch.** The cases are those of the program text. A character with a short escape, or a
printable one without need of an escape, stands for itself, and none of these is the replacement
character, so that no half of a pair is meant. All others are told by a unit if they are small
enough, and by the two halves of their number otherwise. -/
lemma spells_filePoint (p : CodePoint) : Spells p (filePoint p) := by
  have shown : ∀ {c : Char} {chars : List Char}, p.char = c → c ≠ CodePoint.replacement →
      Spells (.ofChar c) chars → Spells p chars := fun same ne spelled =>
    CodePoint.eq_ofChar same ne ▸ spelled
  unfold filePoint
  dsimp only
  split_ifs with quote newline return' tab back form plain small
  · obtain quote | slash := quote
    · rw [quote]
      exact shown quote (by decide) (.short rfl)
    · rw [slash]
      exact shown slash (by decide) (.short rfl)
  · exact shown newline (by decide) (.short rfl)
  · exact shown return' (by decide) (.short rfl)
  · exact shown tab (by decide) (.short rfl)
  · exact shown back (by decide) (.short rfl)
  · exact shown form (by decide) (.short rfl)
  · obtain ⟨unquoted, unescaped⟩ := not_or.mp quote
    have most : p.char.toNat ≤ 126 := plain.2
    refine shown rfl ?_ (.plain unquoted unescaped plain.1)
    -- the replacement character is beyond ASCII
    intro same
    rw [same] at most
    exact absurd most (by decide)
  · exact .unit small
  · have bounded := p.bounded
    exact .pair (isHigh_iff.mpr (by omega)) (isLow_iff.mpr (by omega)) (by omega)

/-- Some characters spell a code point. -/
lemma Spells.length_pos {p : CodePoint} {chars : List Char} (spelled : Spells p chars) :
    0 < chars.length := by
  cases spelled <;> exact Nat.succ_pos _

/-- A code point that is no second half leaves a first half before it alone.

**Proof sketch.** A second half in a unit would have to stand first in what spells the point. A
plain character and a short escape begin in another way, a unit spells the point itself, and a pair
begins with a first half. -/
lemma Spells.apart {p : CodePoint} {chars : List Char} (spelled : Spells p chars)
    (alone : isLow p.value ≠ true) (rest : List Char) : Apart (chars ++ rest) := by
  intro more same
  cases spelled with
  | plain _ unescaped _ =>
    cases same
    exact absurd rfl unescaped
  | short escape =>
    cases same
    cases escape
  | unit small =>
    cases same
    exact ⟨_, _, readUnit_hexPadded small rest, alone⟩
  | @pair _ first second high low =>
    rw [List.append_assoc] at same
    cases same
    have bounds := isHigh_iff.mp high
    refine ⟨first, _, readUnit_hexPadded (by omega) _, fun low' => ?_⟩
    have bounds' := isLow_iff.mp low'
    omega

/-! ## Texts -/

/-- A spelled code point is read, unless it is a first half whose second half follows.

**Proof sketch.** By cases on how the code point is spelled. Each case is one equation of the
reader, once it is clear that no other one applies. -/
lemma readText_spells {p : CodePoint} {chars rest : List Char} (spelled : Spells p chars)
    (apart : isHigh p.value = true → Apart rest) (fuel : Nat) :
    readText (fuel + 1) (chars ++ rest) =
      (readText fuel rest).map fun read => (p :: read.1, read.2) := by
  cases spelled with
  | @plain c unquoted unescaped printed =>
    have kept : ¬(c = '\\' ∨ c.toNat < 32) := by simp only [unescaped, false_or]; omega
    rw [List.singleton_append, readText, if_neg kept]
    · cases readText fuel rest <;> rfl
    · exact unquoted
    · exact fun _ slash => absurd slash unescaped
    · exact fun _ _ slash => absurd slash unescaped
  | @short letter c escape =>
    have unit : letter ≠ 'u' := by
      rintro rfl
      cases escape
    rw [List.cons_append, List.singleton_append, readText, escape]
    · dsimp only
      cases readText fuel rest <;> rfl
    · exact unit
  | unit small =>
    rw [unitEscape, List.cons_append, List.cons_append, readText, readEscape_alone small apart]
    dsimp only [bind, Except.bind]
    cases readText fuel rest <;> rfl
  | pair high low paired =>
    rw [List.append_assoc, unitEscape, List.cons_append, List.cons_append, readText,
      readEscape_pair high low paired]
    dsimp only [bind, Except.bind]
    cases readText fuel rest <;> rfl

/-- A joined text is read back, where the fuel is enough for what spells it.

**Proof sketch.** By induction on the points. Each point is spelled in some way that is read back,
unless it is a first half with a second half behind it; the next point is no such half because the
text is joined, and after the last point stands the closing quote. -/
lemma readText_filePoints {points : List CodePoint} (joined : Text.Joined ⟨points⟩)
    (rest : List Char) {fuel : Nat} (enough : (points.flatMap filePoint).length < fuel) :
    readText fuel (points.flatMap filePoint ++ '"' :: rest) = .ok (points, rest) := by
  induction points generalizing fuel with
  | nil =>
    obtain ⟨fuel, rfl⟩ := Nat.exists_eq_add_of_lt enough
    rfl
  | cons p points ih =>
    obtain ⟨head, tail⟩ := List.isChain_cons.mp joined
    have spelled := spells_filePoint p
    have some := spelled.length_pos
    rw [List.flatMap_cons, List.length_append] at enough
    obtain ⟨fuel, rfl⟩ : ∃ less, fuel = less + 1 := ⟨fuel - 1, by omega⟩
    -- behind a first half stands the quote that closes the text, or no second half
    have apart : isHigh p.value = true → Apart (points.flatMap filePoint ++ '"' :: rest) := by
      intro high
      cases points with
      | nil => exact fun more same => by cases same
      | cons q points =>
        rw [List.flatMap_cons, List.append_assoc]
        exact (spells_filePoint q).apart (fun low => head q rfl ⟨high, low⟩) _
    rw [List.flatMap_cons, List.append_assoc, readText_spells spelled apart, ih tail (by omega)]
    rfl

/-- What the first code point of a text that is read comes from: a character, or an escape.

**Proof sketch.** By the cases of reading. A text that ends has no first code point; a short escape
and a plain character give a character, and the remaining case is an escape by units. -/
lemma readText_cases {fuel : Nat} {source rest : List Char} {p : CodePoint} {points : List CodePoint}
    (h : readText (fuel + 1) source = .ok (p :: points, rest)) :
    ∃ tail, readText fuel tail = .ok (points, rest) ∧ ((∃ c, p = .ofChar c) ∨
      ∃ escape, source = '\\' :: 'u' :: escape ∧ readEscape escape = .ok (p, tail)) := by
  unfold readText at h
  split at h
  · cases h
  · cases h
  · obtain ⟨⟨p', tail⟩, escape, h⟩ := bind_eq_ok_iff.mp h
    obtain ⟨⟨points', rest'⟩, more, h⟩ := bind_eq_ok_iff.mp h
    cases h
    exact ⟨tail, more, .inr ⟨_, rfl, escape⟩⟩
  · rename_i letter tail _
    split at h
    · cases h
    · rename_i c escape
      obtain ⟨⟨points', rest'⟩, more, h⟩ := bind_eq_ok_iff.mp h
      cases h
      exact ⟨tail, more, .inl ⟨c, rfl⟩⟩
  · rename_i c tail _ _ _
    split_ifs at h
    obtain ⟨⟨points', rest'⟩, more, h⟩ := bind_eq_ok_iff.mp h
    cases h
    exact ⟨tail, more, .inl ⟨c, rfl⟩⟩

/-- Where a first half stays alone, no second half is read next. -/
lemma Apart.not_isLow {fuel : Nat} {source rest : List Char} {p : CodePoint}
    {points : List CodePoint} (apart : Apart source)
    (h : readText fuel source = .ok (p :: points, rest)) : isLow p.value ≠ true := by
  cases fuel with
  | zero => cases h
  | succ fuel =>
    obtain ⟨tail, -, ⟨c, rfl⟩ | ⟨escape, rfl, read⟩⟩ := readText_cases h
    · exact CodePoint.not_isLow_ofChar c
    · obtain ⟨unit, after, next, alone⟩ := apart escape rfl
      obtain ⟨same, -⟩ | beyond := readEscape_cases read
      · rw [next] at same
        cases same
        exact alone
      · intro low
        have bounds := isLow_iff.mp low
        omega

/-- Every text that is read is joined: what a pair spells is read as one character.

**Proof sketch.** Induction on the fuel.  A first half can only come from an escape.  What stands
behind it is then no escape of a second half, so the next code point is not one either. -/
lemma joined_of_readText {fuel : Nat} {source rest : List Char} {points : List CodePoint}
    (h : readText fuel source = .ok (points, rest)) : Text.Joined ⟨points⟩ := by
  induction fuel generalizing source points with
  | zero => cases h
  | succ fuel ih =>
    cases points with
    | nil => exact .nil
    | cons p points =>
      obtain ⟨tail, more, first⟩ := readText_cases h
      refine List.isChain_cons.mpr ⟨fun q hq pair => ?_, ih more⟩
      obtain ⟨high, low⟩ := pair
      obtain ⟨points, rfl⟩ := List.head?_eq_some_iff.mp hq
      obtain ⟨c, rfl⟩ | ⟨escape, rfl, read⟩ := first
      · exact CodePoint.not_isHigh_ofChar c high
      · obtain ⟨-, apart⟩ | beyond := readEscape_cases read
        · exact (apart high).not_isLow more low
        · have bounds := isHigh_iff.mp high
          omega

/-! ## Whole numbers -/

/-- What may stand right behind a number: nothing that would go on with it. -/
def Closes (rest : List Char) : Prop :=
  ∀ c ∈ rest.head?, isDigit c = false ∧ c ≠ '.' ∧ c ≠ 'e' ∧ c ≠ 'E'

/-- A number of ordinary digits is the value of its digits. -/
lemma ofDigits_toDigits (n : Nat) : ofDigits (Nat.toDigits 10 n) = n :=
  Nat.ofDigitChars_eq_foldl.symm.trans Nat.ofDigitChars_ten_toDigits

/-- A number is written in decimal digits. -/
lemma isDigit_of_mem_toDigits {n : Nat} {c : Char} (mem : c ∈ Nat.toDigits 10 n) :
    isDigit c = true := by
  have digit := Nat.isDigit_of_mem_toDigits (by decide) (by decide) mem
  simpa [isDigit, Char.isDigit, Char.le_def] using digit

/-- Only zero is written with a zero in front. -/
lemma eq_zero_of_head {n : Nat} (h : (Nat.toDigits 10 n).head? = some '0') : n = 0 := by
  have digits : ∀ n < 10, Nat.digitChar n = '0' → n = 0 := by decide
  induction n using Nat.strongRecOn with
  | ind n ih =>
    rw [Nat.toDigits_eq_if (by decide)] at h
    split_ifs at h with small
    · exact digits n small (Option.some.inj h)
    -- a longer number starts like its tenth part
    · rw [List.head?_append_of_ne_nil _ Nat.toDigits_ne_nil] at h
      have := ih (n / 10) (by omega) h
      omega

/-- Digits end where the number does. -/
lemma span_digits {digits rest : List Char} (all : ∀ c ∈ digits, isDigit c = true)
    (closes : Closes rest) : (digits ++ rest).takeWhile isDigit = digits ∧
      (digits ++ rest).dropWhile isDigit = rest := by
  rw [List.takeWhile_append_of_pos all, List.dropWhile_append_of_pos all]
  cases rest with
  | nil => exact ⟨List.append_nil _, rfl⟩
  | cons c rest =>
    have other : isDigit c ≠ true := Bool.eq_false_iff.mp (closes c rfl).1
    rw [List.takeWhile_cons_of_neg other, List.dropWhile_cons_of_neg other]
    exact ⟨List.append_nil _, rfl⟩

/-- The digits of a number are read. -/
lemma readWhole_toDigits (n : Nat) {rest : List Char} (closes : Closes rest) :
    readWhole (Nat.toDigits 10 n ++ rest) = some (Nat.toDigits 10 n, rest) := by
  rcases Nat.eq_zero_or_pos n with rfl | pos
  · rfl
  · obtain ⟨take, drop⟩ := span_digits (fun _ => isDigit_of_mem_toDigits (n := n)) closes
    unfold readWhole
    split
    · rename_i tail same
      have zero : (Nat.toDigits 10 n).head? = some '0' := by
        rw [← List.head?_append_of_ne_nil _ Nat.toDigits_ne_nil, same]
        rfl
      exact absurd (eq_zero_of_head zero) pos.ne'
    · dsimp only
      rw [take, drop, if_neg]
      rw [List.isEmpty_iff]
      exact Nat.toDigits_ne_nil

/-- A whole number of ordinary length is read back from its digits.

**Proof sketch.** What follows the digits starts neither a fraction nor an exponent, so the number
is whole; there are few enough digits, and they are read back. -/
lemma readNumber_toDigits (negative : Bool) {n : Nat} {rest : List Char} (closes : Closes rest)
    (short : n < 10 ^ maxDigits) :
    readNumber negative (Nat.toDigits 10 n ++ rest) =
      .ok (.int (if negative then -n else n), rest) := by
  have fraction : readFraction rest = none := by
    unfold readFraction
    split
    · exact absurd rfl (closes _ rfl).2.1
    · rfl
  have exponent : readExponent rest = none := by
    unfold readExponent
    split
    · rename_i c more
      obtain ⟨-, -, e, E⟩ := closes c rfl
      rw [if_neg (not_or.mpr ⟨e, E⟩)]
    · rfl
  have length : ¬maxDigits < (Nat.toDigits 10 n).length :=
    not_lt.mpr ((Nat.length_toDigits_le_iff (by decide) (by decide)).mpr short)
  rw [readNumber, readWhole_toDigits n closes]
  dsimp only
  rw [fraction, exponent]
  dsimp only
  rw [if_neg (by decide), if_neg length, ofDigits_toDigits]

/-- A number is less than the power of ten with as many zeros as it has digits. -/
lemma ofDigits_lt {digits : List Char} (all : ∀ c ∈ digits, isDigit c = true) :
    ofDigits digits < 10 ^ digits.length := by
  induction digits using List.reverseRecOn with
  | nil => exact Nat.one_pos
  | append_singleton digits c ih =>
    have front := ih fun c' mem => all c' (List.mem_append_left _ mem)
    have last := all c (List.mem_append_right _ (List.mem_singleton_self c))
    simp only [isDigit, Bool.and_eq_true, decide_eq_true_eq] at last
    have value : c.toNat ≤ 57 := last.2
    have step : ofDigits (digits ++ [c]) = 10 * ofDigits digits + (c.toNat - 48) :=
      List.foldl_append
    rw [step, List.length_append, List.length_singleton, Nat.pow_succ]
    omega

/-- What is read before the point are digits. -/
lemma isDigit_of_readWhole {source whole rest : List Char} (h : readWhole source = some (whole, rest)) :
    ∀ c ∈ whole, isDigit c = true := by
  unfold readWhole at h
  split at h
  · cases h
    intro c mem
    rw [List.mem_singleton.mp mem]
    rfl
  · dsimp only at h
    split_ifs at h
    cases h
    exact List.all_eq_true.mp List.all_takeWhile

/-- What is read as a number is a double or a whole number of ordinary length. -/
lemma readNumber_cases {negative : Bool} {source rest : List Char} {v : Json}
    (h : readNumber negative source = .ok (v, rest)) :
    (∃ x, v = .float x) ∨ ∃ n, v = .int n ∧ n.natAbs < 10 ^ maxDigits := by
  unfold readNumber at h
  split at h
  · cases h
  · rename_i whole _ read
    have bound := ofDigits_lt (isDigit_of_readWhole read)
    dsimp only at h
    split_ifs at h with point long sign
    · cases h
      exact .inl ⟨_, rfl⟩
    all_goals
      cases h
      refine .inr ⟨_, rfl, lt_of_lt_of_le ?_ (Nat.pow_le_pow_right (by decide) (not_lt.mp long))⟩
    · rwa [Int.natAbs_neg, Int.natAbs_natCast]
    · rwa [Int.natAbs_natCast]

end Json

end Starchart
