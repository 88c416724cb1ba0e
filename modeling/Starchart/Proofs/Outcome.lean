import Mathlib.Tactic.Common
import Starchart.Run

/-!
# What rolls and steps may answer

The laws of the generator hold for every source of random numbers.  A roll is described by what it
may answer, whatever the source says, and a step of a run by what holds after it.  The only fault
that either may end in is that the source has run dry, which an inexhaustible source never does.

## Main definitions

* `Starchart.Roll.CanGive` — an answer that a roll may give.
* `Starchart.Roll.Gives` — what every answer of a roll is like; the roll does not fail.
* `Starchart.Gen.Ends` — what holds after a step from a given run; the step does not fail.
* `Starchart.Gen.CanLead` — a change of the scene that a step may bring about.

## Main results

* `Starchart.Roll.Gives.bind`, `Starchart.Gen.ends_bind` — descriptions follow the program text.
* `Starchart.Gen.Ends.exists_ok` — with an inexhaustible source, a step with a description ends.
-/

set_option autoImplicit false

namespace Starchart

/-- The one fault that a sound computation may end in: the source had no answer, which an
inexhaustible source always has. -/
def RunsDry (σ : Type) [RandomSource σ] (e : Fault) : Prop :=
  e = .sourceExhausted ∧ ¬Inexhaustible σ

/-! ## Rolls -/

namespace Roll

variable {σ : Type} {α β : Type}

/-- The roll may answer `a`, for some state of the dice. -/
def CanGive (x : Roll σ α) (a : α) : Prop :=
  ∃ dice after, x dice = .ok a after

/-- What two rolls in a row can give, the second one can. -/
lemma CanGive.exists_bind {x : Roll σ α} {f : α → Roll σ β} {b : β} (h : (x >>= f).CanGive b) :
    ∃ a, (f a).CanGive b := by
  obtain ⟨dice, after, h⟩ := h
  cases hx : x dice with
  | ok a mid =>
    simp only [bind, EStateM.bind, hx] at h
    exact ⟨a, mid, after, h⟩
  | error e mid => simp only [bind, EStateM.bind, hx, reduceCtorEq] at h

/-- A returned value gives nothing else. -/
lemma CanGive.eq_pure {a b : α} (h : (pure a : Roll σ α).CanGive b) : b = a := by
  obtain ⟨dice, after, h⟩ := h
  cases h
  rfl

variable [RandomSource σ]

/-- Every answer of the roll is as `Q` tells, and it fails only when the source runs dry. This is
total correctness for an inexhaustible source, and partial correctness for any other. -/
def Gives (x : Roll σ α) (Q : α → Prop) : Prop :=
  ∀ dice, match x dice with
    | .ok a _ => Q a
    | .error e _ => RunsDry σ e

/-- What every answer is like, a possible one is like. -/
lemma Gives.of_canGive {x : Roll σ α} {Q : α → Prop} (h : x.Gives Q) {a : α}
    (ha : x.CanGive a) : Q a := by
  obtain ⟨dice, after, ha⟩ := ha
  have := h dice
  rwa [ha] at this

/-- Every answer is a possible one. -/
lemma Gives.canGive {x : Roll σ α} {Q : α → Prop} (h : x.Gives Q) :
    x.Gives fun a => Q a ∧ x.CanGive a := by
  intro dice
  have := h dice
  split <;> rename_i hx <;> rw [hx] at this
  · exact ⟨this, dice, _, hx⟩
  · exact this

/-- A description may be weakened. -/
lemma Gives.mono {x : Roll σ α} {P Q : α → Prop} (h : x.Gives P) (imp : ∀ a, P a → Q a) :
    x.Gives Q := by
  intro dice
  have := h dice
  split <;> rename_i hx <;> rw [hx] at this
  · exact imp _ this
  · exact this

/-- A returned value needs no dice. -/
lemma gives_pure {a : α} {Q : α → Prop} (h : Q a) : (pure a : Roll σ α).Gives Q :=
  fun _ => h

/-- Two rolls in a row. -/
lemma Gives.bind {x : Roll σ α} {f : α → Roll σ β} {P : α → Prop} {Q : β → Prop}
    (hx : x.Gives P) (hf : ∀ a, P a → (f a).Gives Q) : (x >>= f).Gives Q := by
  intro dice
  have hx := hx dice
  cases h : x dice with
  | ok a mid =>
    rw [h] at hx
    simpa only [Bind.bind, EStateM.bind, h] using hf a hx mid
  | error e mid =>
    rw [h] at hx
    simpa only [Bind.bind, EStateM.bind, h] using hx

/-- A pure reading that answers. -/
lemma gives_ofExcept {x : Except Fault α} {a : α} {Q : α → Prop} (hx : x = .ok a) (h : Q a) :
    (liftM x : Roll σ α).Gives Q := by
  subst hx
  exact gives_pure h

/-- A pick among some possibilities. -/
lemma gives_index {n : Nat} (pos : 0 < n) : (index n : Roll σ (Fin n)).Gives fun _ => True := by
  intro dice
  simp only [index, dif_pos pos]
  rcases h : RandomSource.draw dice.source n pos with ⟨_ | value, source⟩
  · exact ⟨rfl, fun always => by simpa [h] using always.answers dice.source n pos⟩
  · trivial

/-- A number below a positive bound. -/
lemma gives_below {n : Int} (pos : 0 < n) : (below n : Roll σ Int).Gives fun k => 0 ≤ k ∧ k < n := by
  have hn : (below n : Roll σ Int) = do return ((← index n.toNat).val : Int) :=
    if_neg (by omega)
  rw [hn]
  refine (gives_index (by omega)).bind fun i _ => gives_pure ?_
  have := i.isLt
  omega

/-- A die with some sides. -/
lemma gives_die {sides : Int} (pos : 0 < sides) :
    (die sides : Roll σ Int).Gives fun k => 1 ≤ k ∧ k ≤ sides :=
  (gives_below pos).bind fun k hk => gives_pure (by omega)

/-- The common die. -/
lemma gives_d6 : (d6 : Roll σ Int).Gives fun k => 1 ≤ k ∧ k ≤ 6 :=
  gives_die (by decide)

/-- The faces of two dice that are added. -/
lemma gives_faces : (twoD6 : Roll σ Int).Gives fun k =>
    ∃ first second : Int, (1 ≤ first ∧ first ≤ 6) ∧ (1 ≤ second ∧ second ≤ 6) ∧
      k = first + second :=
  gives_d6.bind fun a ha => gives_d6.bind fun b hb => gives_pure ⟨a, b, ha, hb, rfl⟩

/-- The sum of two dice. -/
lemma gives_twoD6 : (twoD6 : Roll σ Int).Gives fun k => 2 ≤ k ∧ k ≤ 12 := by
  refine gives_faces.mono ?_
  rintro _ ⟨first, second, hfirst, hsecond, rfl⟩
  omega

/-- The ten-sided die. -/
lemma gives_d10 : (d10 : Roll σ Int).Gives fun k => 0 ≤ k ∧ k < 10 :=
  gives_below (by decide)

/-- The twelve-sided die. -/
lemma gives_d12 : (d12 : Roll σ Int).Gives fun k => 1 ≤ k ∧ k ≤ 12 :=
  gives_die (by decide)

/-- A pick out of a list that is not empty. -/
lemma gives_choice {options : List α} (some : options ≠ []) :
    (choice options : Roll σ α).Gives fun a => a ∈ options :=
  (gives_index (List.length_pos_iff.mpr some)).bind fun i _ => gives_pure (options.get_mem i)

end Roll

/-! ## Steps of a run -/

namespace Gen

variable {σ ρ τ : Type} {α β : Type}

/-- The step may change the scene from `before` to `after`, for some dice and journal. -/
def CanLead (x : Gen σ ρ α) (before after : ρ) : Prop :=
  ∃ start a stop, x start = .ok a stop ∧ start.scene = before ∧ stop.scene = after

/-- Two steps in a row end only if each of them does. -/
lemma exists_of_bind_ok {x : Gen σ ρ α} {f : α → Gen σ ρ β} {run after : Run σ ρ} {b : β}
    (h : (x >>= f) run = .ok b after) : ∃ a mid, x run = .ok a mid ∧ f a mid = .ok b after := by
  cases hx : x run with
  | ok a mid => exact ⟨a, mid, rfl, by simpa only [bind, EStateM.bind, hx] using h⟩
  | error e mid => simp only [bind, EStateM.bind, hx, reduceCtorEq] at h

/-- A step on part of a scene ends only if it does as a step of its own. -/
lemma exists_of_onPart_ok {view : ρ → τ} {update : τ → ρ → ρ} {x : Gen σ τ α}
    {run after : Run σ ρ} {a : α} (h : onPart view update x run = .ok a after) :
    ∃ inner, x ⟨run.dice, run.journal, view run.scene⟩ = .ok a inner := by
  cases hx : x ⟨run.dice, run.journal, view run.scene⟩ with
  | ok b inner =>
    simp only [onPart, hx, EStateM.Result.ok.injEq] at h
    exact ⟨inner, h.1 ▸ rfl⟩
  | error e inner => simp only [onPart, hx, reduceCtorEq] at h

/-- A pure reading ends only if it answers, and changes nothing. -/
lemma of_ofExcept_ok {x : Except Fault α} {run after : Run σ ρ} {a : α}
    (h : (liftM x : Gen σ ρ α) run = .ok a after) : x = .ok a ∧ after = run := by
  cases x with
  | error e => cases h
  | ok b =>
    cases h
    exact ⟨rfl, rfl⟩

variable [RandomSource σ]

/-- From `run`, the step ends as `Q` tells, unless the source runs dry. Like `Gives`, it rules out
every fault of the program itself. -/
def Ends (x : Gen σ ρ α) (run : Run σ ρ) (Q : α → Run σ ρ → Prop) : Prop :=
  match x run with
  | .ok a after => Q a after
  | .error e _ => RunsDry σ e

/-- With an inexhaustible source, a step that has a description ends. -/
lemma Ends.exists_ok [always : Inexhaustible σ] {x : Gen σ ρ α} {run : Run σ ρ}
    {Q : α → Run σ ρ → Prop} (h : x.Ends run Q) : ∃ a after, x run = .ok a after ∧ Q a after := by
  unfold Ends at h
  split at h <;> rename_i hx
  · exact ⟨_, _, hx, h⟩
  · exact absurd always h.2

/-- What holds after a step holds after any run of it that ends. -/
lemma Ends.of_ok {x : Gen σ ρ α} {run after : Run σ ρ} {Q : α → Run σ ρ → Prop} {a : α}
    (h : x.Ends run Q) (hx : x run = .ok a after) : Q a after := by
  unfold Ends at h
  rwa [hx] at h

/-- A description may be weakened. -/
lemma Ends.mono {x : Gen σ ρ α} {run : Run σ ρ} {P Q : α → Run σ ρ → Prop} (h : x.Ends run P)
    (imp : ∀ a after, P a after → Q a after) : x.Ends run Q := by
  unfold Ends at h ⊢
  split <;> rename_i hx <;> rw [hx] at h
  · exact imp _ _ h
  · exact h

/-- Where a step ends, it can lead. -/
lemma Ends.canLead {x : Gen σ ρ α} {run : Run σ ρ} {Q : α → Run σ ρ → Prop} (h : x.Ends run Q) :
    x.Ends run fun a after => Q a after ∧ x.CanLead run.scene after.scene := by
  unfold Ends at h ⊢
  split <;> rename_i hx <;> rw [hx] at h
  · exact ⟨h, run, _, _, hx, rfl, rfl⟩
  · exact h

/-- What holds after a step from every run on a scene holds wherever the step can lead. -/
lemma CanLead.holds {x : Gen σ ρ α} {before after : ρ} {P : ρ → Prop}
    (h : x.CanLead before after)
    (spec : ∀ run : Run σ ρ, run.scene = before → x.Ends run fun _ stop => P stop.scene) :
    P after := by
  obtain ⟨start, a, stop, hx, rfl, rfl⟩ := h
  exact (spec start rfl).of_ok hx

section Rules

variable {run : Run σ ρ}

/-- A returned value changes nothing. -/
@[simp] lemma ends_pure {a : α} {Q : α → Run σ ρ → Prop} :
    (pure a : Gen σ ρ α).Ends run Q ↔ Q a run := Iff.rfl

/-- Two steps in a row. -/
@[simp] lemma ends_bind {x : Gen σ ρ α} {f : α → Gen σ ρ β} {Q : β → Run σ ρ → Prop} :
    (x >>= f).Ends run Q ↔ x.Ends run fun a after => (f a).Ends after Q := by
  cases h : x run <;> simp only [Ends, bind, EStateM.bind, h]

/-- Looking at the scene. -/
@[simp] lemma ends_scene {Q : ρ → Run σ ρ → Prop} :
    (scene : Gen σ ρ ρ).Ends run Q ↔ Q run.scene run := Iff.rfl

/-- Changing the scene. -/
@[simp] lemma ends_change {f : ρ → ρ} {Q : Unit → Run σ ρ → Prop} :
    (change f : Gen σ ρ Unit).Ends run Q ↔ Q () { run with scene := f run.scene } := Iff.rfl

/-- Adding to the journal. -/
@[simp] lemma ends_record {e : Event} {Q : Unit → Run σ ρ → Prop} :
    (record e : Gen σ ρ Unit).Ends run Q ↔ Q () { run with journal := run.journal ++ [e] } :=
  Iff.rfl

/-- Recording a diagnostic. -/
@[simp] lemma ends_diagnose {d : Diagnostic} {Q : Unit → Run σ ρ → Prop} :
    (diagnose d : Gen σ ρ Unit).Ends run Q ↔
      Q () { run with journal := run.journal ++ [.diagnosed d] } := Iff.rfl

/-- A pure reading that answers. -/
lemma ends_ofExcept {x : Except Fault α} {a : α} {Q : α → Run σ ρ → Prop} (hx : x = .ok a) :
    (liftM x : Gen σ ρ α).Ends run Q ↔ Q a run := by
  subst hx
  exact Iff.rfl

/-- An operation that is not refused. -/
lemma ends_attempt {f : ρ → Except Fault ρ} {after : ρ} {Q : Unit → Run σ ρ → Prop}
    (h : f run.scene = .ok after) :
    (attempt f : Gen σ ρ Unit).Ends run Q ↔ Q () { run with scene := after } := by
  simp only [attempt, ends_bind, ends_scene, ends_ofExcept h, ends_change]

/-- A roll leaves journal and scene alone. -/
lemma ends_roll {x : Roll σ α} {P : α → Prop} {Q : α → Run σ ρ → Prop} (hx : x.Gives P)
    (h : ∀ a dice, P a → Q a { run with dice := dice }) : (roll x : Gen σ ρ α).Ends run Q := by
  have hx := hx run.dice
  cases hr : x run.dice with
  | ok a dice =>
    rw [hr] at hx
    simpa only [Ends, roll, hr] using h a dice hx
  | error e dice =>
    rw [hr] at hx
    simpa only [Ends, roll, hr] using hx

/-- A step on part of a scene. -/
@[simp] lemma ends_onPart {view : ρ → τ} {update : τ → ρ → ρ} {x : Gen σ τ α}
    {Q : α → Run σ ρ → Prop} :
    (onPart view update x : Gen σ ρ α).Ends run Q ↔
      x.Ends ⟨run.dice, run.journal, view run.scene⟩ fun a inner =>
        Q a ⟨inner.dice, inner.journal, update inner.scene run.scene⟩ := by
  cases h : x ⟨run.dice, run.journal, view run.scene⟩ <;> simp only [Ends, onPart, h]

/-- A step for each member of a list keeps what each single one keeps. -/
lemma ends_forM {xs : List β} {f : β → Gen σ ρ PUnit} {I : Run σ ρ → Prop}
    (step : ∀ b ∈ xs, ∀ mid, I mid → (f b).Ends mid fun _ after => I after) (start : I run) :
    (xs.forM f).Ends run fun _ after => I after := by
  induction xs generalizing run with
  | nil => exact start
  | cons b xs ih =>
    change (f b >>= fun _ => xs.forM f).Ends run _
    rw [ends_bind]
    refine (step b List.mem_cons_self run start).mono fun _ mid hmid => ?_
    exact ih (fun c hc => step c (List.mem_cons_of_mem b hc)) hmid

/-- A step for each member of two lists in a row. -/
lemma ends_forM_append {xs ys : List β} {f : β → Gen σ ρ PUnit} {Q : PUnit → Run σ ρ → Prop} :
    ((xs ++ ys).forM f).Ends run Q ↔
      (xs.forM f).Ends run fun _ mid => (ys.forM f).Ends mid Q := by
  induction xs generalizing run with
  | nil => exact Iff.rfl
  | cons x xs ih =>
    change (f x >>= fun _ => (xs ++ ys).forM f).Ends run Q ↔
      (f x >>= fun _ => xs.forM f).Ends run _
    rw [ends_bind, ends_bind]
    exact ⟨fun h => h.mono fun _ _ => ih.mp, fun h => h.mono fun _ _ => ih.mpr⟩

end Rules

end Gen

end Starchart
