import Starchart.Random.Source

/-!
# The twister

The twisted generalised feedback shift register on 624 words of 32 bits with period `2 ^ 19937 - 1`,
seeded from the 32-bit words of an integer.  A number below a bound is drawn as just as many random
bits as the bound has, again and again until it is small enough.

## Main definitions

* `Starchart.Twister` — the words and the place of the next one.
* `Starchart.Twister.ofSeed` — the state seeded by an integer.
* `Starchart.Twister.word` — the next 32 random bits.
* `Starchart.Twister.bits` — any number of random bits.

## Implementation notes

A draw is refused only if its leading bit is set.  The leading bits of successive words obey a
linear recurrence of degree 19937, so they cannot all be set that many times in a row: the bound
`Twister.patience` on the number of refusals is never reached.
-/

set_option autoImplicit false

namespace Starchart

/-- The words of the register and the place of the next one to be given out. -/
structure Twister where
  words : Array UInt32
  next : Nat
  deriving Inhabited

namespace Twister

/-- The number of words in the register. -/
def size : Nat := 624

/-- The distance between a word and the one it is combined with. -/
def shift : Nat := 397

/-! ## Seeding -/

/-- A word with its upper bits mixed into its lower ones. -/
private def mix (w : UInt32) : UInt32 := w ^^^ (w >>> 30)

/-- Words appended one by one, each computed from the word before it. -/
private def spread : Nat → UInt32 → Array UInt32 → Array UInt32
  | 0, _, words => words
  | count + 1, last, words =>
    let word := 1812433253 * mix last + UInt32.ofNat words.size
    spread count word (words.push word)

/-- Stores a word and moves on; past the end the last word is copied to the front. -/
private def store (words : Array UInt32) (i : Nat) (word : UInt32) : Array UInt32 × Nat :=
  let words := words.setIfInBounds i word
  if size ≤ i + 1 then (words.setIfInBounds 0 (words.getD (size - 1) 0), 1) else (words, i + 1)

/-- Stirs key word after key word into the register, going round in both. -/
private def stir (key : Array UInt32) : Nat → Nat → Nat → Array UInt32 → Array UInt32 × Nat
  | 0, i, _, words => (words, i)
  | count + 1, i, j, words =>
    let word := (words.getD i 0 ^^^ (mix (words.getD (i - 1) 0) * 1664525)) +
      key.getD j 0 + UInt32.ofNat j
    let (words, i) := store words i word
    stir key count i (if key.size ≤ j + 1 then 0 else j + 1) words

/-- Stirs the register once more, without a key. -/
private def settle : Nat → Nat → Array UInt32 → Array UInt32
  | 0, _, words => words
  | count + 1, i, words =>
    let word := (words.getD i 0 ^^^ (mix (words.getD (i - 1) 0) * 1566083941)) - UInt32.ofNat i
    let (words, i) := store words i word
    settle count i words

/-- The 32-bit words of a number, least significant first. -/
private def keyWords (n : Nat) : Array UInt32 :=
  if n == 0 then #[0]
  else ((List.range (n.log2 / 32 + 1)).map fun i => UInt32.ofNat (n >>> (32 * i))).toArray

/-- The register seeded by the words of `|seed|`. -/
def ofSeed (seed : Int) : Twister :=
  let key := keyWords seed.natAbs
  let (words, i) := stir key (max size key.size) 1 0 (spread (size - 1) 19650218 #[19650218])
  ⟨(settle (size - 1) i words).setIfInBounds 0 0x80000000, size⟩

/-! ## Drawing -/

/-- A whole new register. -/
private def twist (words : Array UInt32) : Array UInt32 :=
  (List.range size).foldl (fun words i =>
    let y := (words.getD i 0 &&& 0x80000000) ||| (words.getD ((i + 1) % size) 0 &&& 0x7fffffff)
    let mixed := words.getD ((i + shift) % size) 0 ^^^ (y >>> 1)
    words.setIfInBounds i (if y &&& 1 == 0 then mixed else mixed ^^^ 0x9908b0df)) words

/-- The bits of a word spread evenly. -/
private def temper (y : UInt32) : UInt32 :=
  let y := y ^^^ (y >>> 11)
  let y := y ^^^ ((y <<< 7) &&& 0x9d2c5680)
  let y := y ^^^ ((y <<< 15) &&& 0xefc60000)
  y ^^^ (y >>> 18)

/-- The next 32 random bits. -/
def word (t : Twister) : UInt32 × Twister :=
  let t := if t.next < size then t else ⟨twist t.words, 0⟩
  (temper (t.words.getD t.next 0), { t with next := t.next + 1 })

/-- Random bits in `full` whole words, least significant first, starting at bit `place`. -/
private def wholeWords (t : Twister) : Nat → Nat → Nat × Twister
  | 0, _ => (0, t)
  | full + 1, place =>
    let (w, t) := t.word
    let (rest, t) := wholeWords t full (place + 32)
    ((w.toNat <<< place) + rest, t)

/-- `count` random bits: whole words first, and the leading bits of one more word on top. -/
def bits (t : Twister) (count : Nat) : Nat × Twister :=
  let (low, t) := wholeWords t (count / 32) 0
  if count % 32 == 0 then (low, t)
  else
    let (w, t) := t.word
    (((w.toNat >>> (32 - count % 32)) <<< (32 * (count / 32))) + low, t)

/-- A bound on the number of refused draws. -/
def patience : Nat := 19968

/-- Draws `count` bits until they spell a number below the bound. -/
def pick (bound : Nat) (pos : 0 < bound) (count : Nat) : Nat → Twister → Fin bound × Twister
  | 0, t => let (r, t) := t.bits count; (⟨r % bound, Nat.mod_lt _ pos⟩, t)
  | fuel + 1, t =>
    let (r, t) := t.bits count
    if h : r < bound then (⟨r, h⟩, t) else pick bound pos count fuel t

/-- The next number below the bound, out of as many bits as the bound has. -/
def draw (t : Twister) (bound : Nat) (pos : 0 < bound) : Option (Fin bound) × Twister :=
  let (r, t) := pick bound pos (bound.log2 + 1) patience t
  (some r, t)

instance : RandomSource Twister := ⟨draw⟩

instance : Inexhaustible Twister := ⟨fun _ _ _ => rfl⟩

end Twister

end Starchart
