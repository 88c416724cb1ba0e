/-!
# Capital letters

Digits, starport codes and level names are read in either case.  They are all spelled in ASCII, so
the only upper-case forms that matter are those made of ASCII letters.  Besides the twenty-six
lower-case letters, ten characters have such a form: the dotless `ı`, the long `ſ`, the sharp `ß`
and the seven Latin ligatures, most of which spread over two or three letters.

## Main definitions

* `Starchart.Text.capitals` — the upper case of one character.
* `Starchart.Text.upper` — the upper case of a text.
-/

set_option autoImplicit false

namespace Starchart.Text

/-- The upper case of `c`, exact whenever that is made of ASCII letters.  Any other character
stands for itself: neither it nor its upper case is then an ASCII text. -/
def capitals (c : Char) : List Char :=
  if 'a' ≤ c ∧ c ≤ 'z' then [Char.ofNat (c.toNat - 32)]
  else match c with
    | 'ı' => ['I']
    | 'ſ' => ['S']
    | 'ß' => ['S', 'S']
    | 'ﬀ' => ['F', 'F']
    | 'ﬁ' => ['F', 'I']
    | 'ﬂ' => ['F', 'L']
    | 'ﬃ' => ['F', 'F', 'I']
    | 'ﬄ' => ['F', 'F', 'L']
    | 'ﬅ' => ['S', 'T']
    | 'ﬆ' => ['S', 'T']
    | other => [other]

/-- The upper case of a text, character by character. -/
def upper (text : List Char) : List Char :=
  text.flatMap capitals

end Starchart.Text
