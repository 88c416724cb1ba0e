import Mathlib.Data.List.Nodup
import Mathlib.Tactic.FinCases
import Starchart.Proofs.Tokens

/-!
# Objects in files

An object of simple values is read back from the file that holds it, field by field, and lists inside
each other are read as far as there is room.  What is read from any file has distinct keys, and its
texts and whole numbers are such that a file can hold them.

## Main definitions

* `Starchart.Json.Keyed` — fields with distinct keys.
* `Starchart.Json.Simple` — values other than doubles, lists and objects.
* `Starchart.Json.Storable` — texts and whole numbers that a file can hold.
* `Starchart.Json.nested` — lists inside each other.

## Main results

* `Starchart.Json.field?_eq_some_iff` — what is found under a key.
* `Starchart.Json.read_fileObject` — an object is read back.
* `Starchart.Json.read_nestedText` — an object with lists inside each other is read.
* `Starchart.Json.keyed_of_read` — what objects are read.
-/

set_option autoImplicit false

namespace Starchart.Json

/-! ## Fields -/

/-- Fields of which no two have the same key. -/
def Keyed (fields : List (Text × Json)) : Prop := (fields.map Prod.fst).Nodup

section Fields

variable {fields : List (Text × Json)} {key : Text} {value : Json}

/-- Under a key is found what stands there.

**Proof sketch.** The look-up goes through the fields from the last to the first. As no key occurs
twice, it makes no difference which one it meets first. -/
lemma field?_eq_some_iff (keyed : Keyed fields) :
    field? fields key = some value ↔ (key, value) ∈ fields := by
  rw [field?, Option.map_eq_some_iff]
  constructor
  · rintro ⟨⟨key', value'⟩, found, rfl⟩
    have same : (key' == key) = true :=
      List.find?_some (p := fun field : Text × Json => field.1 == key) found
    rw [← eq_of_beq same]
    exact List.mem_reverse.mp (List.mem_of_find?_eq_some found)
  · intro mem
    have nodup : (fields.reverse.map Prod.fst).Nodup := by
      rw [List.map_reverse]
      exact List.nodup_reverse.mpr keyed
    exact ⟨(key, value), find?_eq_of_nodup nodup (List.mem_reverse.mpr mem), rfl⟩

/-- No two values stand under one key. -/
lemma Keyed.eq_of_mem (keyed : Keyed fields) {value' : Json} (mem : (key, value) ∈ fields)
    (mem' : (key, value') ∈ fields) : value = value' := by
  rw [← field?_eq_some_iff keyed] at mem mem'
  exact Option.some.inj (mem.symm.trans mem')

/-- A new key goes to the end. -/
lemma setField_of_notMem (new : key ∉ fields.map Prod.fst) :
    setField fields key value = fields ++ [(key, value)] := by
  rw [setField, if_neg]
  intro known
  obtain ⟨field, mem, same⟩ := List.any_eq_true.mp known
  exact new (eq_of_beq same ▸ List.mem_map_of_mem mem)

/-- A field that is set is new or was there before. -/
lemma mem_setField {field : Text × Json} (mem : field ∈ setField fields key value) :
    field = (key, value) ∨ field ∈ fields := by
  unfold setField at mem
  split_ifs at mem
  · obtain ⟨old, known, rfl⟩ := List.mem_map.mp mem
    split_ifs
    · exact .inl rfl
    · exact .inr known
  · obtain mem | new := List.mem_append.mp mem
    · exact .inr mem
    · exact .inl (List.mem_singleton.mp new)

/-- A key does not come earlier than it does. -/
lemma Keyed.notMem {field : Text × Json} {later : List (Text × Json)}
    (keyed : Keyed (fields ++ field :: later)) : field.1 ∉ fields.map Prod.fst := by
  rw [Keyed, List.map_append, List.map_cons, List.nodup_middle, List.nodup_cons] at keyed
  exact fun mem => keyed.1 (List.mem_append_left _ mem)

/-- Setting a field leaves no key twice.

**Proof sketch.** If the key is known, its value is replaced in place and the keys are the same ones
as before. If it is new, it is appended, and occurs nowhere else. -/
lemma Keyed.setField (keyed : Keyed fields) : Keyed (setField fields key value) := by
  unfold Json.setField
  split_ifs with known
  · have same : (fields.map fun field => if field.1 == key then (key, value) else field).map Prod.fst =
        fields.map Prod.fst := by
      rw [List.map_map]
      refine List.map_congr_left fun field _ => ?_
      dsimp only [Function.comp_apply]
      split_ifs with hit
      · exact (eq_of_beq hit).symm
      · rfl
    rw [Keyed, same]
    exact keyed
  · have new : key ∉ fields.map Prod.fst := by
      intro mem
      obtain ⟨field, old, rfl⟩ := List.mem_map.mp mem
      exact known (List.any_eq_true.mpr ⟨field, old, beq_self_eq_true _⟩)
    rw [Keyed, List.map_append]
    exact keyed.append (List.nodup_singleton key) (List.disjoint_singleton.mpr new)

end Fields

/-! ## Simple values -/

/-- A value that is neither double nor list nor object. -/
def Simple : Json → Prop
  | float _ | list _ | object _ => False
  | _ => True

/-- A value that a file can hold, as far as texts and whole numbers go: whole numbers have a limited
number of digits, and texts are joined. -/
def Storable : Json → Prop
  | int n => n.natAbs < 10 ^ maxDigits
  | text t => t.Joined
  | _ => True

/-- What a file holds of a text. -/
lemma toList_fileText (t : Text) :
    (fileText t).toList = '"' :: (t.points.flatMap filePoint ++ ['"']) := String.toList_ofList

/-- What a file holds of a whole number. -/
lemma toList_int (n : Int) : (toString n).toList =
    if 0 ≤ n then Nat.toDigits 10 n.toNat else '-' :: Nat.toDigits 10 (-n).toNat := by
  show n.repr.toList = _
  rw [Int.repr_eq_if]
  split_ifs
  · rw [Nat.repr_eq_ofList_toDigits, String.toList_ofList]
  · simp only [String.toList_append, Nat.repr_eq_ofList_toDigits, String.toList_ofList]
    rfl

/-- A value that starts with a digit is a number. -/
lemma readValue_digit {c : Char} (digit : isDigit c = true) (fuel room : Nat) (rest : List Char) :
    readValue (fuel + 1) room (c :: rest) = readNumber false (c :: rest) ∧
      readValue (fuel + 1) room ('-' :: c :: rest) = readNumber true (c :: rest) := by
  -- the reader tells values by their first character, so it has to be a literal
  have ten : ∀ n < 128, isDigit (Char.ofNat n) = true →
      Char.ofNat n ∈ ['0', '1', '2', '3', '4', '5', '6', '7', '8', '9'] := by decide
  have small : c.toNat < 128 := by
    simp only [isDigit, Bool.and_eq_true, decide_eq_true_eq] at digit
    have : c.toNat ≤ 57 := digit.2
    omega
  have mem := ten c.toNat small (by rwa [Char.ofNat_toNat])
  rw [Char.ofNat_toNat] at mem
  fin_cases mem <;> exact ⟨rfl, rfl⟩

/-- A whole number of ordinary length is read back, with or without a sign. -/
lemma readValue_toDigits {n : Nat} {rest : List Char} (closes : Closes rest)
    (short : n < 10 ^ maxDigits) (fuel room : Nat) :
    readValue (fuel + 1) room (Nat.toDigits 10 n ++ rest) = .ok (.int n, rest) ∧
      readValue (fuel + 1) room ('-' :: (Nat.toDigits 10 n ++ rest)) = .ok (.int (-n), rest) := by
  have number := fun negative => readNumber_toDigits negative closes short
  have digits : ∀ c ∈ Nat.toDigits 10 n, isDigit c = true := fun _ => isDigit_of_mem_toDigits
  obtain ⟨c, more, same⟩ := List.exists_cons_of_ne_nil (Nat.toDigits_ne_nil (b := 10) (n := n))
  rw [same] at number digits ⊢
  obtain ⟨plus, minus⟩ := readValue_digit (digits c List.mem_cons_self) fuel room (more ++ rest)
  exact ⟨plus.trans (number false), minus.trans (number true)⟩

/-- A simple value is read back.

**Proof sketch.** By cases on the value. Words are read at once; digits end where the value does,
since what follows closes it, and a sign comes before them; the points of a text are read back up to
the closing quote. Lists, objects and doubles are not simple. -/
lemma readValue_fileValue {v : Json} (simple : v.Simple) (storable : v.Storable) {rest : List Char}
    (closes : Closes rest) (room : Nat) {fuel : Nat} (enough : (fileValue v).length ≤ fuel) :
    readValue (fuel + 1) room ((fileValue v).toList ++ rest) = .ok (v, rest) := by
  cases v with
  | null => rfl
  | bool value => cases value <;> rfl
  | int n =>
    have short : n.natAbs < 10 ^ maxDigits := storable
    rw [fileValue, toList_int]
    split_ifs with nonneg
    · rw [(readValue_toDigits closes (by omega) fuel room).1, Int.toNat_of_nonneg nonneg]
    · rw [List.cons_append, (readValue_toDigits closes (by omega) fuel room).2,
        Int.toNat_of_nonneg (by omega), Int.neg_neg]
  | text t =>
    have length : (fileText t).length = (t.points.flatMap filePoint).length + 2 := by
      rw [← String.length_toList, toList_fileText]
      simp
    rw [fileValue, length] at enough
    rw [fileValue, toList_fileText, List.cons_append, List.append_assoc, List.singleton_append,
      readValue, readText_filePoints storable rest (by omega)]
    rfl
  | float _ => exact simple.elim
  | list _ => exact simple.elim
  | object _ => exact simple.elim

/-! ## Objects -/

/-- What a file holds of one field. -/
lemma toList_fileField (key : Text) (value : Json) : (fileField (key, value)).toList =
    ' ' :: ' ' :: '"' :: (key.points.flatMap filePoint ++
      '"' :: ':' :: ' ' :: (fileValue value).toList) := by
  simp only [fileField, String.toList_append, toList_fileText, List.append_assoc, List.cons_append]
  rfl

/-- What a file holds of the fields of an object, up to the brace that closes it, and what
follows. -/
def fileLines (fields : List (Text × Json)) (rest : List Char) : List Char :=
  [',', '\n'].intercalate ((fields.map fileField).map String.toList) ++ '\n' :: '\x7d' :: rest

/-- The last field. -/
lemma fileLines_singleton (field : Text × Json) (rest : List Char) :
    fileLines [field] rest = (fileField field).toList ++ '\n' :: '\x7d' :: rest := by
  rw [fileLines, List.map_singleton, List.map_singleton, List.intercalate_singleton]

/-- A field before others. -/
lemma fileLines_cons (field next : Text × Json) (fields : List (Text × Json)) (rest : List Char) :
    fileLines (field :: next :: fields) rest =
      (fileField field).toList ++ ',' :: '\n' :: fileLines (next :: fields) rest := by
  simp only [fileLines, List.map_cons, List.intercalate_cons_cons, List.append_assoc]
  rfl

/-- What a file holds of an object. -/
lemma toList_fileObject (fields : List (Text × Json)) :
    (fileObject fields).toList = '\x7b' :: '\n' :: fileLines fields [] := by
  rw [fileObject, String.toList_append, String.toList_append, String.toList_intercalate]
  rfl

/-- No blank comes before a simple value.

**Proof sketch.** By cases on the value: its text starts with a letter, a quotation mark, a sign or
a digit, none of which is a blank. -/
lemma skip_fileValue {v : Json} (simple : v.Simple) (rest : List Char) :
    skip ((fileValue v).toList ++ rest) = (fileValue v).toList ++ rest := by
  -- a digit is no blank
  have digits : ∀ n : Nat, skip (Nat.toDigits 10 n ++ rest) = Nat.toDigits 10 n ++ rest := by
    intro n
    obtain ⟨c, more, same⟩ := List.exists_cons_of_ne_nil (Nat.toDigits_ne_nil (b := 10) (n := n))
    have digit : isDigit c = true := isDigit_of_mem_toDigits (same ▸ List.mem_cons_self)
    have dark : isSpace c ≠ true := by
      intro blank
      simp only [isSpace, Bool.or_eq_true, beq_iff_eq] at blank
      rcases blank with ((rfl | rfl) | rfl) | rfl <;> cases digit
    rw [same]
    exact List.dropWhile_cons_of_neg dark
  cases v with
  | null => rfl
  | bool value => cases value <;> rfl
  | int n =>
    rw [fileValue, toList_int]
    split_ifs
    · exact digits _
    · rfl
  | text t =>
    rw [fileValue, toList_fileText]
    rfl
  | float _ => exact simple.elim
  | list _ => exact simple.elim
  | object _ => exact simple.elim

/-- A character that does not go on with a number. -/
lemma closes_cons {c : Char} (other : isDigit c = false ∧ c ≠ '.' ∧ c ≠ 'e' ∧ c ≠ 'E')
    (rest : List Char) : Closes (c :: rest) :=
  fun _ same => Option.some.inj same ▸ other

/-- A field is read as its key and its value, and what follows decides how the object goes on. -/
lemma readFields_field {key : Text} {value : Json} {source after : List Char} (joined : key.Joined)
    {fuel room : Nat} (enough : (key.points.flatMap filePoint).length < fuel)
    (read : readValue fuel room (skip source) = .ok (value, after)) (known : List (Text × Json)) :
    readFields (fuel + 1) room known
        ('"' :: (key.points.flatMap filePoint ++ '"' :: ':' :: source)) =
      match skip after with
      | ',' :: rest => readFields fuel room (setField known key value) (skip rest)
      | '\x7d' :: rest => .ok (setField known key value, rest)
      | _ => .error .malformed := by
  have colon : skip (':' :: source) = ':' :: source := rfl
  rw [readFields, readText_filePoints joined _ enough]
  dsimp only [bind, Except.bind]
  rw [colon]
  simp only
  rw [read]
  rfl

/-- A field with a simple value is read back.

**Proof sketch.** Behind the key there is one blank, and behind that the value, which is read back.
What follows closes the value, so that its reader stops there. -/
lemma readFields_fileField {key : Text} {value : Json} (joined : key.Joined) (simple : value.Simple)
    (storable : value.Storable) {after : List Char} (closes : Closes after) (room : Nat)
    (known : List (Text × Json)) {fuel : Nat}
    (enough : ((fileField (key, value)).toList ++ after).length ≤ fuel) :
    readFields (fuel + 1) room known (skip ((fileField (key, value)).toList ++ after)) =
      match skip after with
      | ',' :: rest => readFields fuel room (setField known key value) (skip rest)
      | '\x7d' :: rest => .ok (setField known key value, rest)
      | _ => .error .malformed := by
  rw [toList_fileField] at enough ⊢
  simp only [List.cons_append, List.append_assoc] at enough ⊢
  simp only [List.length_cons, List.length_append, String.length_toList] at enough
  have blank : skip (' ' :: ((fileValue value).toList ++ after)) = (fileValue value).toList ++ after :=
    skip_fileValue simple after
  -- the fuel covers the whole line, so it covers its key and its value
  obtain ⟨fuel, rfl⟩ : ∃ less, fuel = less + 1 := ⟨fuel - 1, by omega⟩
  have read : readValue (fuel + 1) room (skip (' ' :: ((fileValue value).toList ++ after))) =
      .ok (value, after) := by
    rw [blank]
    exact readValue_fileValue simple storable closes room (by omega)
  exact readFields_field joined (by omega) read known

/-- The fields of an object start with a quote. -/
lemma exists_skip_fileLines (field : Text × Json) (fields : List (Text × Json)) (rest : List Char) :
    ∃ more, skip (fileLines (field :: fields) rest) = '"' :: more := by
  cases fields with
  | nil =>
    rw [fileLines_singleton, toList_fileField]
    exact ⟨_, rfl⟩
  | cons next fields =>
    rw [fileLines_cons, toList_fileField]
    exact ⟨_, rfl⟩

/-- Fields that a file can hold are read back one after the other.

**Proof sketch.** Induction on the fields behind the first one.  A comma, with which the next line
starts, or the line that closes the object ends the value before it. -/
lemma readFields_fileLines {field : Text × Json} {fields : List (Text × Json)}
    (fit : ∀ f ∈ field :: fields, f.1.Joined ∧ f.2.Simple ∧ f.2.Storable) (rest : List Char)
    (room : Nat) {known : List (Text × Json)} (keyed : Keyed (known ++ field :: fields)) {fuel : Nat}
    (enough : (fileLines (field :: fields) rest).length ≤ fuel) :
    readFields (fuel + 1) room known (skip (fileLines (field :: fields) rest)) =
      .ok (known ++ field :: fields, rest) := by
  induction fields generalizing field known fuel with
  | nil =>
    obtain ⟨joined, simple, storable⟩ := fit field List.mem_cons_self
    rw [fileLines_singleton] at enough ⊢
    rw [readFields_fileField joined simple storable (closes_cons (by decide) _) room known enough]
    show Except.ok (setField known field.1 field.2, rest) = _
    rw [setField_of_notMem keyed.notMem]
  | cons next fields ih =>
    obtain ⟨joined, simple, storable⟩ := fit field List.mem_cons_self
    rw [fileLines_cons] at enough ⊢
    rw [readFields_fileField joined simple storable (closes_cons (by decide) _) room known enough]
    rw [List.length_append, List.length_cons, List.length_cons] at enough
    obtain ⟨fuel, rfl⟩ : ∃ less, fuel = less + 1 := ⟨fuel - 1, by omega⟩
    have later : Keyed ((known ++ [field]) ++ next :: fields) := by
      rwa [List.append_assoc, List.singleton_append]
    show readFields (fuel + 1) room (setField known field.1 field.2)
      (skip (fileLines (next :: fields) rest)) = _
    rw [setField_of_notMem keyed.notMem,
      ih (fun f mem => fit f (List.mem_cons_of_mem _ mem)) later (by omega), List.append_assoc,
      List.singleton_append]

/-- An object with fields is read field by field. -/
lemma readValue_object {source more : List Char} (quote : skip source = '"' :: more)
    (fuel room : Nat) : readValue (fuel + 1) (room + 1) ('\x7b' :: source) =
      (readFields fuel room [] ('"' :: more)).map fun read => (object read.1, read.2) := by
  rw [readValue, quote]
  show (readFields fuel room [] ('"' :: more) >>= fun read => pure (object read.1, read.2)) = _
  cases readFields fuel room [] ('"' :: more) <;> rfl

/-- An object whose fields a file can hold is read back.  There has to be room for one object.

**Proof sketch.** Without fields there are only the brackets. Otherwise the lines of the fields
start with a quote, so the reader goes through them one by one until the closing bracket. -/
lemma read_fileObject {fields : List (Text × Json)} (keyed : Keyed fields)
    (fit : ∀ f ∈ fields, f.1.Joined ∧ f.2.Simple ∧ f.2.Storable) {room : Nat} (roomy : 0 < room) :
    read room (fileObject fields) = .ok (.object fields) := by
  obtain ⟨room, rfl⟩ : ∃ less, room = less + 1 := ⟨room - 1, by omega⟩
  rw [read, toList_fileObject]
  cases fields with
  | nil => rfl
  | cons field fields =>
    obtain ⟨more, quote⟩ := exists_skip_fileLines field fields []
    have lines : skip ('\n' :: fileLines (field :: fields) []) = '"' :: more := quote
    have each : readFields (2 * (fileLines (field :: fields) []).length + 5) room []
        (skip (fileLines (field :: fields) [])) = .ok ([] ++ field :: fields, []) :=
      readFields_fileLines fit [] room keyed (by omega)
    rw [quote] at each
    show (readValue (2 * (fileLines (field :: fields) []).length + 5 + 1) (room + 1)
      ('\x7b' :: '\n' :: fileLines (field :: fields) []) >>= _) = _
    rw [readValue_object lines, each]
    rfl

/-! ## Lists inside each other -/

/-- Lists inside each other, the innermost one without items. -/
def nested : Nat → Json
  | 0 => .list []
  | n + 1 => .list [nested n]

/-- Each list adds a level. -/
lemma depth_nested (n : Nat) : (nested n).depth = n + 1 := by
  induction n with
  | zero => rfl
  | succ n ih => rw [nested, depth, depthOfItems, depthOfItems, ih, Nat.max_zero]

/-- Lists inside each other are read where there is room for all of them.

**Proof sketch.** By induction on the depth. One bracket takes one unit of room and two of fuel;
what is left is enough for the lists inside, and the last bracket closes the outermost list. -/
lemma readValue_nested {n room : Nat} (roomy : n < room) {fuel : Nat} (enough : 2 * n < fuel)
    (rest : List Char) : readValue fuel room
      (List.replicate (n + 1) '[' ++ (List.replicate (n + 1) ']' ++ rest)) =
        .ok (nested n, rest) := by
  induction n generalizing room fuel rest with
  | zero =>
    obtain ⟨room, rfl⟩ := Nat.exists_eq_add_of_lt roomy
    obtain ⟨fuel, rfl⟩ := Nat.exists_eq_add_of_lt enough
    rfl
  | succ n ih =>
    obtain ⟨room, rfl⟩ : ∃ less, room = less + 1 := ⟨room - 1, by omega⟩
    obtain ⟨fuel, rfl⟩ : ∃ less, fuel = less + 2 := ⟨fuel - 2, by omega⟩
    have items : readItems (fuel + 1) room (List.replicate (n + 1) '[' ++
        (List.replicate (n + 1) ']' ++ ']' :: rest)) = .ok ([nested n], rest) := by
      rw [readItems, ih (by omega) (by omega)]
      rfl
    -- the last bracket closes the outermost list
    rw [List.replicate_succ' (n := n + 1) (a := ']'), List.append_assoc, List.singleton_append]
    show (readItems (fuel + 1) room (List.replicate (n + 1) '[' ++
        (List.replicate (n + 1) ']' ++ ']' :: rest)) >>= _) = _
    rw [items]
    rfl

/-- An object with lists inside each other under its only key. -/
def nestedText (key : Text) (n : Nat) : String :=
  "\x7b" ++ fileText key ++ ":" ++
    String.ofList (List.replicate (n + 1) '[' ++ List.replicate (n + 1) ']') ++ "\x7d"

/-- What a file holds of it. -/
lemma toList_nestedText (key : Text) (n : Nat) : (nestedText key n).toList =
    '\x7b' :: '"' :: (key.points.flatMap filePoint ++ '"' :: ':' ::
      (List.replicate (n + 1) '[' ++ (List.replicate (n + 1) ']' ++ ['\x7d']))) := by
  simp only [nestedText, String.toList_append, toList_fileText, String.toList_ofList,
    List.append_assoc, List.cons_append]
  rfl

/-- It is read where there is room for the object and for all of the lists.

**Proof sketch.** The brace takes one level of the room, and the lists take the others. The text is
longer than the lists are deep, so the fuel that is computed from its length suffices. -/
lemma read_nestedText {key : Text} (joined : key.Joined) {n room : Nat} (roomy : n + 1 < room) :
    read room (nestedText key n) = .ok (.object [(key, nested n)]) := by
  obtain ⟨room, rfl⟩ : ∃ less, room = less + 1 := ⟨room - 1, by omega⟩
  have long : (nestedText key n).toList.length =
      (key.points.flatMap filePoint).length + 2 * n + 7 := by
    rw [toList_nestedText]
    simp only [List.length_cons, List.length_append, List.length_replicate, List.length_nil]
    omega
  have value : readValue (2 * (nestedText key n).toList.length) room
      (skip (List.replicate (n + 1) '[' ++ (List.replicate (n + 1) ']' ++ ['\x7d']))) =
        .ok (nested n, ['\x7d']) :=
    readValue_nested (by omega) (by omega) ['\x7d']
  have field := readFields_field joined (by omega) value []
  have start : skip (nestedText key n).toList = (nestedText key n).toList := by
    rw [toList_nestedText]
    rfl
  rw [read, start]
  nth_rewrite 2 [toList_nestedText]
  rw [readValue_object rfl, field]
  rfl

/-! ## What is read -/

/-- What is read as a word is the value of the word. -/
lemma eq_of_readWord {word : String} {value v : Json} {source rest : List Char}
    (h : readWord word value source = .ok (v, rest)) : v = value := by
  unfold readWord at h
  split at h <;> cases h
  rfl

/-- What is read as a double is one. -/
lemma eq_of_readWordDouble {room : Nat} {word : String} {value : Float} {v : Json}
    {source rest : List Char} (h : readWordDouble room word value source = .ok (v, rest)) :
    v = .float value := by
  unfold readWordDouble at h
  split at h <;> cases h
  rfl

/-- What is read as a value: a file can hold it, as far as texts and whole numbers go, and the
fields of an object were read one after the other.

**Proof sketch.** By cases on the first character. Texts are joined and whole numbers short because
their own readers see to that; lists, words and doubles can always be held. A brace that is not
closed at once is followed by fields, and these are what the object consists of. -/
lemma readValue_cases {fuel room : Nat} {source rest : List Char} {v : Json}
    (h : readValue fuel room source = .ok (v, rest)) : v.Storable ∧ ∀ fields, v = .object fields →
      fields = [] ∨ ∃ fuel room source, readFields fuel room [] source = .ok (fields, rest) := by
  cases fuel with
  | zero => cases h
  | succ fuel =>
    unfold readValue at h
    split at h
    · obtain ⟨⟨points, rest'⟩, read, h⟩ := bind_eq_ok_iff.mp h
      cases h
      exact ⟨joined_of_readText read, nofun⟩
    · split at h
      · cases h
      · split at h
        · cases h
          exact ⟨trivial, nofun⟩
        · obtain ⟨⟨items, rest'⟩, -, h⟩ := bind_eq_ok_iff.mp h
          cases h
          exact ⟨trivial, nofun⟩
    · split at h
      · cases h
      · split at h
        · cases h
          refine ⟨trivial, ?_⟩
          rintro _ ⟨⟩
          exact .inl rfl
        · obtain ⟨⟨fields, rest'⟩, read, h⟩ := bind_eq_ok_iff.mp h
          cases h
          refine ⟨trivial, ?_⟩
          rintro _ ⟨⟩
          exact .inr ⟨_, _, _, read⟩
    · exact eq_of_readWord h ▸ ⟨trivial, nofun⟩
    · exact eq_of_readWord h ▸ ⟨trivial, nofun⟩
    · exact eq_of_readWord h ▸ ⟨trivial, nofun⟩
    · exact eq_of_readWordDouble h ▸ ⟨trivial, nofun⟩
    · exact eq_of_readWordDouble h ▸ ⟨trivial, nofun⟩
    · exact eq_of_readWordDouble h ▸ ⟨trivial, nofun⟩
    · obtain ⟨x, rfl⟩ | ⟨n, rfl, short⟩ := readNumber_cases h
      exacts [⟨trivial, nofun⟩, ⟨short, nofun⟩]
    · obtain ⟨x, rfl⟩ | ⟨n, rfl, short⟩ := readNumber_cases h
      exacts [⟨trivial, nofun⟩, ⟨short, nofun⟩]

/-- Reading a field sets it among those read before. -/
lemma readFields_cases {fuel room : Nat} {known fields : List (Text × Json)} {source rest : List Char}
    (h : readFields (fuel + 1) room known source = .ok (fields, rest)) :
    ∃ key value, value.Storable ∧ (fields = setField known key value ∨
      ∃ source, readFields fuel room (setField known key value) source = .ok (fields, rest)) := by
  unfold readFields at h
  split at h
  · obtain ⟨⟨points, behind⟩, -, h⟩ := bind_eq_ok_iff.mp h
    dsimp only at h
    split at h
    · obtain ⟨⟨value, behind⟩, read, h⟩ := bind_eq_ok_iff.mp h
      refine ⟨⟨points⟩, value, (readValue_cases read).1, ?_⟩
      dsimp only at h
      split at h
      · exact .inr ⟨_, h⟩
      · cases h
        exact .inl rfl
      · cases h
    · cases h
  · cases h

/-- Fields that are read have distinct keys, and their values can be held by a file.

**Proof sketch.** By induction on the fuel. Each round sets one field among those read before, which
replaces the one with the same key or adds one with a key of its own. -/
lemma keyed_of_readFields {fuel room : Nat} {known fields : List (Text × Json)}
    {source rest : List Char} (h : readFields fuel room known source = .ok (fields, rest))
    (keyed : Keyed known) (storable : ∀ f ∈ known, f.2.Storable) :
    Keyed fields ∧ ∀ f ∈ fields, f.2.Storable := by
  induction fuel generalizing known source with
  | zero => cases h
  | succ fuel ih =>
    obtain ⟨key, value, fits, last⟩ := readFields_cases h
    have storable' : ∀ f ∈ setField known key value, f.2.Storable := by
      intro f mem
      obtain rfl | mem := mem_setField mem
      · exact fits
      · exact storable f mem
    obtain rfl | ⟨source, more⟩ := last
    · exact ⟨keyed.setField, storable'⟩
    · exact ih more keyed.setField storable'

/-- An object that is read has distinct keys, and its values can be held by a file, as far as texts
and whole numbers go. -/
lemma keyed_of_read {room : Nat} {source : String} {fields : List (Text × Json)}
    (h : read room source = .ok (.object fields)) : Keyed fields ∧ ∀ f ∈ fields, f.2.Storable := by
  unfold read at h
  obtain ⟨⟨value, rest⟩, read, h⟩ := bind_eq_ok_iff.mp h
  dsimp only at h
  split_ifs at h
  cases h
  obtain rfl | ⟨fuel, room, source, each⟩ := (readValue_cases read).2 fields rfl
  · exact ⟨List.nodup_nil, nofun⟩
  · exact keyed_of_readFields each List.nodup_nil nofun

end Starchart.Json
