import Starchart.Proofs.Outcome
import Starchart.Proofs.Steps

/-!
# Two runs abreast

Two runs are compared step by step: they start with the same dice, and the main world has a name of its
own in each.  Steps that do not heed the name roll the same dice, and what they record differs at most
in that name.  This is read off the program text, for steps that end and for steps that fail.

## Main definitions

* `Starchart.Pairing` — two runs to be compared.
* `Starchart.Pairing.Words` — texts that differ at most in the name.
* `Starchart.Pairing.Tells`, `Starchart.Pairing.Fails` — so do events, and faults.
* `Starchart.Pairing.Abreast` — two runs with the same dice and such journals.
* `Starchart.Gen.Mirrors` — two steps that keep runs abreast, and end or fail alike.
* `Starchart.Gen.Echoes` — a step that does so in both runs.

## Main results

* `Starchart.Gen.Mirrors.bind` — two steps in a row.
* `Starchart.Gen.mirrors_onPart` — steps on parts of the scenes.
* `Starchart.Gen.echoes_roll` — a roll that is the same in both runs.
* `Starchart.Pairing.Tells.diagnostics` — the diagnostics of such journals.
-/

set_option autoImplicit false

namespace Starchart

/-- Two runs to be compared: the name of the main world in each, and the journals they start with.
All relations between two runs in this module are relative to such a pairing. -/
structure Pairing where
  name : String
  name' : String
  start : Journal
  start' : Journal

namespace Pairing

variable {N : Pairing}

/-- The same text, or one that has the name of either run in the same place. No message has the name
more than once. -/
inductive Words (N : Pairing) : String → String → Prop where
  | same (text : String) : Words N text text
  | named (before after : String) :
      Words N (before ++ N.name ++ after) (before ++ N.name' ++ after)

/-- Diagnostics of the same severity and category, with the same figures behind them, whose messages
differ at most in the name. -/
structure Diagnoses (N : Pairing) (d d' : Diagnostic) : Prop where
  severity : d'.severity = d.severity
  category : d'.category = d.category
  data : d'.data = d.data
  message : N.Words d.message d'.message

/-- Events that differ at most in the name, apart from the seed that is told. The seed is told for
the record only, and nothing later depends on it. -/
inductive Tells (N : Pairing) : Event → Event → Prop where
  | same (e : Event) : Tells N e e
  | diagnosed {d d' : Diagnostic} (h : N.Diagnoses d d') : Tells N (.diagnosed d) (.diagnosed d')
  | generating (star profile : String) (seed seed' : Int) :
      Tells N (.generating star N.name profile seed) (.generating star N.name' profile seed')

/-- Faults that differ at most in the name. The only fault with a name in it that may be that of the
main world is the refusal of a slot which it occupies. -/
inductive Fails (N : Pairing) : Fault → Fault → Prop where
  | same (e : Fault) : Fails N e e
  | occupied (orbit : Int) (star : String) :
      Fails N (.slotRefused orbit star (.occupiedBy N.name))
        (.slotRefused orbit star (.occupiedBy N.name'))

/-- Journals that went on from their starts with events that differ at most in the name. -/
def Journals (N : Pairing) (j j' : Journal) : Prop :=
  ∃ added added', j = N.start ++ added ∧ j' = N.start' ++ added' ∧
    List.Forall₂ N.Tells added added'

/-- The journals before any event. -/
lemma journals_start : N.Journals N.start N.start' :=
  ⟨[], [], (List.append_nil _).symm, (List.append_nil _).symm, .nil⟩

/-- Journals go on with one more event each. -/
lemma Journals.snoc {j j' : Journal} {e e' : Event} (h : N.Journals j j') (tells : N.Tells e e') :
    N.Journals (j ++ [e]) (j' ++ [e']) := by
  obtain ⟨added, added', rfl, rfl, told⟩ := h
  refine ⟨added ++ [e], added' ++ [e'], List.append_assoc .., List.append_assoc .., ?_⟩
  exact List.rel_append told (.cons tells .nil)

/-- The diagnostics among events that differ at most in the name do so one by one. -/
theorem Tells.diagnostics {added added' : Journal} (h : List.Forall₂ N.Tells added added') :
    List.Forall₂ N.Diagnoses added.diagnostics added'.diagnostics := by
  have alike : ∀ d, N.Diagnoses d d := fun d => ⟨rfl, rfl, rfl, .same _⟩
  induction h with
  | nil => exact .nil
  | @cons e e' rest rest' tells _ ih =>
    cases tells with
    | same =>
      cases e with
      | diagnosed d => exact .cons (alike d) ih
      | _ => exact ih
    | diagnosed h => exact .cons h ih
    | generating => exact ih

/-- Pure readings whose answers are in `S`, or that fail in faults that differ at most in the
name. -/
def Answers {α : Type} (N : Pairing) (S : α → α → Prop) : Except Fault α → Except Fault α → Prop
  | .ok v, .ok w => S v w
  | .error e, .error e' => N.Fails e e'
  | _, _ => False

/-- The same pure reading. -/
lemma answers_same {α : Type} (x : Except Fault α) : N.Answers Eq x x := by
  cases x with
  | ok => rfl
  | error e => exact .same e

/-- Two pure readings in a row. -/
lemma Answers.bind {α β : Type} {S : α → α → Prop} {T : β → β → Prop} {x y : Except Fault α}
    {f g : α → Except Fault β} (h : N.Answers S x y)
    (rest : ∀ v w, S v w → N.Answers T (f v) (g w)) : N.Answers T (x >>= f) (y >>= g) := by
  cases x <;> cases y
  · exact h
  · exact h.elim
  · exact h.elim
  · exact rest _ _ h

variable {σ ρ : Type}

/-- Two runs with the same dice, whose journals differ at most in the name and whose scenes are in
`R`. -/
structure Abreast (N : Pairing) (R : ρ → ρ → Prop) (run run' : Run σ ρ) : Prop where
  dice : run'.dice = run.dice
  journal : N.Journals run.journal run'.journal
  scene : R run.scene run'.scene

/-- Either both runs end, with answers in `S` and abreast, or both fail in faults that differ at
most in the name, with the same dice and journals that do, too. -/
def Outcomes {α : Type} (N : Pairing) (R : ρ → ρ → Prop) (S : α → α → Prop) :
    EStateM.Result Fault (Run σ ρ) α → EStateM.Result Fault (Run σ ρ) α → Prop
  | .ok v after, .ok w after' => S v w ∧ N.Abreast R after after'
  | .error e after, .error e' after' => N.Fails e e' ∧ N.Abreast (fun _ _ => True) after after'
  | _, _ => False

end Pairing

namespace Gen

variable {σ ρ τ : Type} {α β : Type} {N : Pairing} {R R' R'' : ρ → ρ → Prop} {S : α → α → Prop}
  {T : β → β → Prop}

/-- From runs abreast on scenes in `R`, the two steps end or fail alike, and if they end then with
answers in `S` on scenes in `R'`. There is one rule for each primitive of the monad, and a program
is compared with itself by following its text. -/
def Mirrors (N : Pairing) (R R' : ρ → ρ → Prop) (S : α → α → Prop) (x y : Gen σ ρ α) : Prop :=
  ∀ run run' : Run σ ρ, N.Abreast R run run' → N.Outcomes R' S (x run) (y run')

/-- The same step in both runs, which keeps them abreast and answers the same. -/
abbrev Echoes (N : Pairing) (R : ρ → ρ → Prop) (x : Gen σ ρ α) : Prop := Mirrors N R R Eq x x

/-- Less may be told about two steps. -/
lemma Mirrors.mono {Q Q' : ρ → ρ → Prop} {x y : Gen σ ρ α} (h : Mirrors N R R' S x y)
    (before : ∀ {a b}, Q a b → R a b) (after : ∀ {a b}, R' a b → Q' a b) :
    Mirrors N Q Q' S x y := by
  intro run run' abreast
  have outcomes := h run run' ⟨abreast.dice, abreast.journal, before abreast.scene⟩
  cases hx : x run <;> cases hy : y run' <;> rw [hx, hy] at outcomes
  · exact ⟨outcomes.1, outcomes.2.dice, outcomes.2.journal, after outcomes.2.scene⟩
  · exact outcomes.elim
  · exact outcomes.elim
  · exact outcomes

/-- Two steps in a row. -/
lemma Mirrors.bind {x y : Gen σ ρ α} {f g : α → Gen σ ρ β} (h : Mirrors N R R' S x y)
    (rest : ∀ v w, S v w → Mirrors N R' R'' T (f v) (g w)) :
    Mirrors N R R'' T (x >>= f) (y >>= g) := by
  intro run run' abreast
  have first := h run run' abreast
  cases hx : x run <;> cases hy : y run' <;> rw [hx, hy] at first
  · rw [bind_ok hx, bind_ok hy]
    exact rest _ _ first.1 _ _ first.2
  · exact first.elim
  · exact first.elim
  · rw [bind_error hx, bind_error hy]
    exact first

/-- Two steps in a row, of which the first one answers the same in both runs. -/
lemma Mirrors.bind_eq {x y : Gen σ ρ α} {f g : α → Gen σ ρ β} (h : Mirrors N R R' Eq x y)
    (rest : ∀ v, Mirrors N R' R'' T (f v) (g v)) : Mirrors N R R'' T (x >>= f) (y >>= g) :=
  h.bind fun v _ same => same ▸ rest v

/-- Returned values. -/
lemma mirrors_pure {v w : α} (h : S v w) :
    Mirrors N R R S (pure v : Gen σ ρ α) (pure w) := fun _ _ abreast => ⟨h, abreast⟩

/-- Faults. -/
lemma mirrors_throw {e e' : Fault} (h : N.Fails e e') :
    Mirrors N R R' S (throw e : Gen σ ρ α) (throw e') :=
  fun _ _ abreast => ⟨h, abreast.dice, abreast.journal, trivial⟩

/-- Pure readings that answer alike. -/
lemma mirrors_ofExcept_of {x y : Except Fault α} (h : N.Answers S x y) :
    Mirrors N R R S (liftM x : Gen σ ρ α) (liftM y) := by
  cases x <;> cases y
  · exact mirrors_throw h
  · exact h.elim
  · exact h.elim
  · exact mirrors_pure h

/-- The same pure reading. -/
lemma echoes_ofExcept (x : Except Fault α) : Echoes N R (liftM x : Gen σ ρ α) :=
  mirrors_ofExcept_of (Pairing.answers_same x)

/-- A look at the scene. -/
lemma mirrors_scene : Mirrors N R R R (scene : Gen σ ρ ρ) scene :=
  fun _ _ abreast => ⟨abreast.scene, abreast⟩

/-- Steps that go on from the scenes that were seen. -/
lemma mirrors_seen {f g : ρ → Gen σ ρ α}
    (h : ∀ a b, R a b → Mirrors N (fun c d => c = a ∧ d = b) R' S (f a) (g b)) :
    Mirrors N R R' S (scene >>= f) (scene >>= g) :=
  fun run run' abreast =>
    h _ _ abreast.scene run run' ⟨abreast.dice, abreast.journal, rfl, rfl⟩

/-- Changes of the scene. -/
lemma mirrors_change {f g : ρ → ρ} (h : ∀ {a b}, R a b → R' (f a) (g b)) :
    Mirrors N R R' Eq (change f : Gen σ ρ Unit) (change g) :=
  fun _ _ abreast => ⟨rfl, abreast.dice, abreast.journal, h abreast.scene⟩

/-- Events. -/
lemma mirrors_record {e e' : Event} (h : N.Tells e e') :
    Mirrors N R R Eq (record e : Gen σ ρ Unit) (record e') :=
  fun _ _ abreast => ⟨rfl, abreast.dice, abreast.journal.snoc h, abreast.scene⟩

/-- Rolls that answer alike. -/
lemma mirrors_roll_of {x y : Roll σ α} (h : ∀ dice, match x dice, y dice with
      | .ok v after, .ok w after' => S v w ∧ after' = after
      | .error e after, .error e' after' => e' = e ∧ after' = after
      | _, _ => False) :
    Mirrors N R R S (roll x : Gen σ ρ α) (roll y) := by
  intro run run' abreast
  have same := h run.dice
  simp only [roll, abreast.dice]
  cases hx : x run.dice <;> cases hy : y run.dice <;> rw [hx, hy] at same
  · exact ⟨same.1, same.2, abreast.journal, abreast.scene⟩
  · exact same.elim
  · exact same.elim
  · obtain ⟨rfl, after⟩ := same
    exact ⟨.same _, after, abreast.journal, trivial⟩

/-- The same roll, which both runs answer alike with something that it can give. -/
lemma mirrors_roll_canGive (x : Roll σ α) :
    Mirrors N R R (fun v w => w = v ∧ x.CanGive v) (roll x : Gen σ ρ α) (roll x) := by
  refine mirrors_roll_of fun dice => ?_
  cases h : x dice with
  | ok v after => exact ⟨⟨rfl, dice, after, h⟩, rfl⟩
  | error e after => exact ⟨rfl, rfl⟩

/-- The same roll. -/
lemma echoes_roll (x : Roll σ α) : Echoes N R (roll x : Gen σ ρ α) := by
  refine mirrors_roll_of fun dice => ?_
  cases x dice <;> exact ⟨rfl, rfl⟩

/-- Operations on the scene that are answered or refused alike. -/
lemma mirrors_attempt {f g : ρ → Except Fault ρ}
    (h : ∀ a b, R a b → N.Answers R' (f a) (g b)) :
    Mirrors N R R' Eq (attempt f : Gen σ ρ Unit) (attempt g) :=
  mirrors_scene.bind fun a b same => (mirrors_ofExcept_of (h a b same)).bind fun _ _ after =>
    (mirrors_change fun _ => after)

/-- Steps on parts of the scenes, which are put back.

**Proof sketch.** The parts are abreast since the scenes are. They are abreast after both runs, and
are put back into scenes that are as well; where one run fails, so does the other. -/
lemma mirrors_onPart {V V' : τ → τ → Prop} {view view' : ρ → τ} {update update' : τ → ρ → ρ}
    {x y : Gen σ τ α} (h : Mirrors N V V' S x y)
    (part : ∀ {a b}, R a b → V (view a) (view' b))
    (back : ∀ {a b t u}, R a b → V' t u → R' (update t a) (update' u b)) :
    Mirrors N R R' S (onPart view update x : Gen σ ρ α) (onPart view' update' y) := by
  intro run run' abreast
  have outcomes := h ⟨run.dice, run.journal, view run.scene⟩
    ⟨run'.dice, run'.journal, view' run'.scene⟩ ⟨abreast.dice, abreast.journal, part abreast.scene⟩
  unfold onPart
  cases hx : x ⟨run.dice, run.journal, view run.scene⟩ <;>
    cases hy : y ⟨run'.dice, run'.journal, view' run'.scene⟩ <;> rw [hx, hy] at outcomes
  · obtain ⟨answers, after⟩ := outcomes
    exact ⟨answers, after.dice, after.journal, back abreast.scene after.scene⟩
  · exact outcomes.elim
  · exact outcomes.elim
  · obtain ⟨fails, after⟩ := outcomes
    exact ⟨fails, after.dice, after.journal, trivial⟩

/-- Steps that both runs make in the same cases only. -/
lemma mirrors_when {c : Prop} [Decidable c] {x y : Gen σ ρ PUnit} {k l : PUnit → Gen σ ρ β}
    (h : Mirrors N R R Eq x y) (rest : ∀ u, Mirrors N R R' T (k u) (l u)) :
    Mirrors N R R' T (if c then x >>= k else k ⟨⟩) (if c then y >>= l else l ⟨⟩) := by
  split
  · exact h.bind_eq rest
  · exact rest _

/-- One of two steps before a common one, which is the same one in both runs. -/
lemma mirrors_choose {c : Prop} [Decidable c] {x x' y y' : Gen σ ρ α} {k l : α → Gen σ ρ β}
    (h : Mirrors N R R' Eq x x') (h' : Mirrors N R R' Eq y y')
    (rest : ∀ v, Mirrors N R' R'' T (k v) (l v)) :
    Mirrors N R R'' T (if c then x >>= k else y >>= k) (if c then x' >>= l else y' >>= l) := by
  split
  · exact h.bind_eq rest
  · exact h'.bind_eq rest

/-- Steps for each member of a list. -/
lemma mirrors_forM {xs : List β} {f g : β → Gen σ ρ PUnit}
    (h : ∀ b, Mirrors N R R Eq (f b) (g b)) : Mirrors N R R Eq (xs.forM f) (xs.forM g) := by
  induction xs with
  | nil => exact mirrors_pure rfl
  | cons b xs ih => exact (h b).bind_eq fun _ => ih

end Gen

end Starchart
