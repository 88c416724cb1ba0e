import Mathlib.Order.Defs.Unbundled
import Starchart.Proofs.Faults
import Starchart.Proofs.Journals
import Starchart.Proofs.Yields

/-!
# What steps leave alone

A step may fail half-way, and what it did before stays done.  Some things it leaves alone all the same:
it only ever adds to the journal, and it moves the scene along some preorder, in which what matters
lasts.  Both are told by one preorder on runs, together with the faults that the step may end in, and
read off the program text: there is one rule for each primitive step, and two steps in a row move a run
as each of them does.

## Main definitions

* `Starchart.Run.Moves` — what a step did to the journal and the scene of a run.
* `Starchart.Gen.Within` — what a step does to every run, and which faults it may end in.
* `Starchart.Gen.Records` — the categories of the diagnostics that a step may record.

## Main results

* `Starchart.Gen.Within.bind` — two steps in a row.
* `Starchart.Gen.within_onPart` — a step on part of a scene.
* `Starchart.Gen.Within.onStar`, `Starchart.Gen.Within.onHost` — steps on one star and on one body.
* `Starchart.Gen.Within.leaves`, `Starchart.Gen.Within.moves`, `Starchart.Gen.Within.records` — what
  follows for a run.
-/

set_option autoImplicit false

namespace Starchart

/-- A star that is unknown fails as such. -/
lemma Atlas.readsAs_star {F : Fault → Prop} (a : Atlas) {id : StarId}
    (unknown : F (.noSuchStar id)) : ReadsAs (a.star id) F := by
  unfold star
  split
  · exact readsAs_ok _
  · exact readsAs_error unknown

/-! ## Runs before and after -/

/-- What was done between two runs: diagnostics of the given categories were added to the journal,
and the scene moved along `R`. -/
structure Run.Moves {σ ρ : Type} (kinds : List Category) (R : ρ → ρ → Prop)
    (before after : Run σ ρ) : Prop where
  journal : Journal.Adds kinds before.journal after.journal
  scene : R before.scene after.scene

/-- Runs move from step to step if their scenes do. -/
instance Run.isPreorder_moves {σ ρ : Type} (kinds : List Category) (R : ρ → ρ → Prop)
    [IsPreorder ρ R] : IsPreorder (Run σ ρ) (Run.Moves kinds R) where
  refl run := ⟨.refl kinds run.journal, refl_of R run.scene⟩
  trans _ _ _ h h' := ⟨h.journal.trans h'.journal, trans_of R h.scene h'.scene⟩

namespace Gen

variable {σ ρ τ : Type} {α β : Type}

/-- Any change of a scene at all. -/
def Anyhow {ρ : Type} (_ _ : ρ) : Prop := True

/-- Any changes in a row are a change. -/
instance isPreorder_anyhow : IsPreorder ρ Anyhow where
  refl _ := trivial
  trans _ _ _ _ _ := trivial

/-- Whether it ends or fails, the step adds diagnostics of the given categories to the journal and
moves the scene along `R`; and a fault that it ends in is as `F` tells. The parts are independent:
each of them is made trivial by the widest category list, relation or predicate on faults, and one
walk through a program serves them all. -/
def Within (x : Gen σ ρ α) (kinds : List Category) (R : ρ → ρ → Prop) (F : Fault → Prop) : Prop :=
  ∀ run, match x run with
    | .ok _ after => run.Moves kinds R after
    | .error e after => run.Moves kinds R after ∧ F e

section Rules

variable {kinds kinds' : List Category} {R S : ρ → ρ → Prop} {F G : Fault → Prop}

/-! ## Telling less -/

/-- Less may be told about a step. -/
lemma Within.mono {x : Gen σ ρ α} (h : x.Within kinds R F) (sub : kinds ⊆ kinds')
    (scenes : ∀ a b, R a b → S a b) (faults : ∀ e, F e → G e) : x.Within kinds' S G := by
  intro run
  have told := h run
  split <;> rename_i hx <;> rw [hx] at told
  · exact ⟨told.journal.mono sub, scenes _ _ told.scene⟩
  · exact ⟨⟨told.1.journal.mono sub, scenes _ _ told.1.scene⟩, faults _ told.2⟩

/-- More categories may be allowed. -/
lemma Within.allow {x : Gen σ ρ α} (h : x.Within kinds R F) (sub : kinds ⊆ kinds') :
    x.Within kinds' R F :=
  h.mono sub (fun _ _ moved => moved) fun _ fault => fault

/-- The scene may move along a weaker relation. -/
lemma Within.along {x : Gen σ ρ α} (h : x.Within kinds R F) (scenes : ∀ a b, R a b → S a b) :
    x.Within kinds S F :=
  h.mono (List.Subset.refl kinds) scenes fun _ fault => fault

/-- Nothing may be told about the faults. -/
lemma Within.any {x : Gen σ ρ α} (h : x.Within kinds R F) : x.Within kinds R Fault.Any :=
  h.mono (List.Subset.refl kinds) (fun _ _ moved => moved) fun _ _ => trivial

/-! ## Single steps -/

/-- A change of the scene. -/
lemma within_change {f : ρ → ρ} (h : ∀ a, R a (f a)) : (change f : Gen σ ρ Unit).Within kinds R F :=
  fun run => ⟨.refl kinds run.journal, h run.scene⟩

/-- What is done after a change moves on from the changed scene. -/
lemma within_change_bind {f : ρ → ρ} {x : Unit → Gen σ ρ α} (h : ∀ u, (x u).Within kinds R F) :
    (change f >>= x).Within kinds (fun a b => R (f a) b) F := by
  intro run
  have rest := h () { run with scene := f run.scene }
  have changed : (change f : Gen σ ρ Unit) run = .ok () { run with scene := f run.scene } := rfl
  rw [bind_ok changed]
  split <;> rename_i hx <;> rw [hx] at rest
  · exact ⟨rest.journal, rest.scene⟩
  · exact ⟨⟨rest.1.journal, rest.1.scene⟩, rest.2⟩

/-- What is done with the scene may rely on it. -/
lemma within_scene_bind {f : ρ → Gen σ ρ α}
    (h : ∀ a, (f a).Within kinds (fun b c => b = a → R b c) F) : (scene >>= f).Within kinds R F := by
  intro run
  have rest := h run.scene run
  have looked : (scene : Gen σ ρ ρ) run = .ok run.scene run := rfl
  rw [bind_ok looked]
  split <;> rename_i hx <;> rw [hx] at rest
  · exact ⟨rest.journal, rest.scene rfl⟩
  · exact ⟨⟨rest.1.journal, rest.1.scene rfl⟩, rest.2⟩

/-- What is done after a roll may rely on what that can give.

**Proof sketch.** A roll changes nothing but the dice, so what holds of the run after it holds of
the run before. If it answers, the rest goes on from there with a value that it can give; if it
fails, the scene did not move at all. -/
lemma within_roll_bind {x : Roll σ α} {f : α → Gen σ ρ β} (still : ∀ a, R a a)
    (fails : x.FailsAs F) (h : ∀ a, x.CanGive a → (f a).Within kinds R F) :
    (roll x >>= f).Within kinds R F := by
  intro run
  have fails := fails run.dice
  cases rolled : x run.dice with
  | ok a dice =>
    have ended : (roll x : Gen σ ρ α) run = .ok a { run with dice := dice } := by
      simp only [roll, rolled]
    have rest := h a ⟨_, _, rolled⟩ { run with dice := dice }
    rw [bind_ok ended]
    split <;> rename_i hx <;> rw [hx] at rest
    · exact ⟨rest.journal, rest.scene⟩
    · exact ⟨⟨rest.1.journal, rest.1.scene⟩, rest.2⟩
  | error e dice =>
    have failed : (roll x : Gen σ ρ α) run = .error e { run with dice := dice } := by
      simp only [roll, rolled]
    rw [rolled] at fails
    rw [bind_error failed]
    exact ⟨⟨.refl kinds run.journal, still _⟩, fails⟩

/-- A step on part of a scene moves the scene as it moves the part. -/
lemma within_onPart {V : τ → τ → Prop} {view : ρ → τ} {update : τ → ρ → ρ} {x : Gen σ τ α}
    (h : x.Within kinds V F) (lift : ∀ {a t}, V (view a) t → R a (update t a)) :
    (onPart view update x : Gen σ ρ α).Within kinds R F := by
  intro run
  have inner := h ⟨run.dice, run.journal, view run.scene⟩
  unfold onPart
  cases hx : x ⟨run.dice, run.journal, view run.scene⟩ <;> rw [hx] at inner
  · exact ⟨inner.journal, lift inner.scene⟩
  · exact ⟨⟨inner.1.journal, lift inner.1.scene⟩, inner.2⟩

variable [IsPreorder ρ R]

/-- Two steps in a row.

**Proof sketch.** The first step relates the scenes before and between, the second those between and
after. The relation is transitive, so it relates the outer ones, and a failure of either step is one
of the pair. -/
lemma Within.bind {x : Gen σ ρ α} {f : α → Gen σ ρ β} (hx : x.Within kinds R F)
    (hf : ∀ a, (f a).Within kinds R F) : (x >>= f).Within kinds R F := by
  intro run
  have first := hx run
  cases h : x run with
  | error e mid =>
    rw [h] at first
    rwa [bind_error h]
  | ok a mid =>
    rw [h] at first
    have second := hf a mid
    rw [bind_ok h]
    split <;> rename_i ha <;> rw [ha] at second
    · exact trans_of (Run.Moves kinds R) first second
    · exact ⟨trans_of (Run.Moves kinds R) first second.1, second.2⟩

/-- A returned value leaves everything alone. -/
lemma within_pure (a : α) : (pure a : Gen σ ρ α).Within kinds R F :=
  fun run => refl_of (Run.Moves kinds R) run

/-- So does a fault. -/
lemma within_throw {e : Fault} (h : F e) : (throw e : Gen σ ρ α).Within kinds R F :=
  fun run => ⟨refl_of (Run.Moves kinds R) run, h⟩

/-- So does a pure reading. -/
lemma within_ofExcept {x : Except Fault α} (h : ReadsAs x F) :
    (liftM x : Gen σ ρ α).Within kinds R F := by
  cases x with
  | ok a => exact within_pure a
  | error e => exact within_throw (h e rfl)

/-- So does a look at the scene. -/
lemma within_scene : (scene : Gen σ ρ ρ).Within kinds R F :=
  fun run => refl_of (Run.Moves kinds R) run

/-- A roll leaves all but the dice alone. -/
lemma within_roll {x : Roll σ α} (h : x.FailsAs F) : (roll x : Gen σ ρ α).Within kinds R F := by
  intro run
  have fails := h run.dice
  have still : run.Moves kinds R run := refl_of (Run.Moves kinds R) run
  cases hx : x run.dice with
  | ok a dice => simpa only [roll, hx] using ⟨still.journal, still.scene⟩
  | error e dice =>
    rw [hx] at fails
    simpa only [roll, hx] using ⟨⟨still.journal, still.scene⟩, fails⟩

/-- Recording an event that is no diagnostic is always allowed. -/
lemma within_record {e : Event} (plain : e.diagnostic? = none) :
    (record e : Gen σ ρ Unit).Within kinds R F :=
  fun run => ⟨Journal.adds_plain plain run.journal, refl_of R run.scene⟩

/-- A diagnostic may be recorded if its category is among those allowed. -/
lemma within_diagnose {d : Diagnostic} (allowed : d.category ∈ kinds) :
    (diagnose d : Gen σ ρ Unit).Within kinds R F :=
  fun run => ⟨Journal.adds_diagnosed allowed run.journal, refl_of R run.scene⟩

/-- An operation on the scene that may be refused. -/
lemma within_attempt {f : ρ → Except Fault ρ} (moves : ∀ {a b}, f a = .ok b → R a b)
    (reads : ∀ a, ReadsAs (f a) F) : (attempt f : Gen σ ρ Unit).Within kinds R F := by
  intro run
  rw [attempt_apply]
  cases answered : f run.scene with
  | ok b => exact ⟨.refl kinds run.journal, moves answered⟩
  | error e => exact ⟨refl_of (Run.Moves kinds R) run, reads _ e answered⟩

/-! ## Steps in cases and in loops -/

/-- A step that is made in some cases only. -/
lemma within_when {c : Prop} [Decidable c] {x : Gen σ ρ PUnit} {k : PUnit → Gen σ ρ β}
    (hx : x.Within kinds R F) (hk : ∀ u, (k u).Within kinds R F) :
    (if c then x >>= k else k ⟨⟩).Within kinds R F := by
  split
  · exact hx.bind hk
  · exact hk _

/-- One of two steps before a common one. -/
lemma within_choose {c : Prop} [Decidable c] {x y : Gen σ ρ α} {k : α → Gen σ ρ β}
    (hx : x.Within kinds R F) (hy : y.Within kinds R F) (hk : ∀ a, (k a).Within kinds R F) :
    (if c then x >>= k else y >>= k).Within kinds R F := by
  split
  · exact hx.bind hk
  · exact hy.bind hk

/-- A step for each member of a list. -/
lemma within_forM {xs : List β} {f : β → Gen σ ρ PUnit} (h : ∀ b, (f b).Within kinds R F) :
    (xs.forM f).Within kinds R F := by
  induction xs with
  | nil => exact within_pure _
  | cons b xs ih => exact (h b).bind fun _ => ih

end Rules

/-! ## Steps on charts -/

section Charts

variable {kinds : List Category} {R : Atlas → Atlas → Prop} {F : Fault → Prop}

/-- What is done with the main world may rely on it. -/
lemma within_main_bind {f : World → Gen σ Atlas α}
    (h : ∀ w, (f w).Within kinds (fun a b => a.main = w → R a b) F) :
    (main >>= f : Gen σ Atlas α).Within kinds R F := by
  change (scene >>= fun a => f a.main).Within kinds R F
  refine within_scene_bind fun a => (h a.main).along fun b c moved same => moved ?_
  rw [same]

variable [IsPreorder Atlas R]

/-- Looking at the main world. -/
lemma within_main : (main : Gen σ Atlas World).Within kinds R F :=
  within_scene.bind fun _ => within_pure _

/-- Looking at a star. -/
lemma within_star {id : StarId} (unknown : F (.noSuchStar id)) :
    (star id : Gen σ Atlas StarSystem).Within kinds R F :=
  within_scene.bind fun a => within_ofExcept (a.readsAs_star unknown)

/-- What is done with a star may rely on it. -/
lemma within_star_bind {id : StarId} {f : StarSystem → Gen σ Atlas α}
    (unknown : F (.noSuchStar id))
    (h : ∀ s, (f s).Within kinds (fun a b => a.star? id = some s → R a b) F) :
    (star id >>= f).Within kinds R F := by
  intro run
  cases found : run.scene.star? id with
  | none =>
    rw [bind_error (star_error found)]
    exact ⟨refl_of (Run.Moves kinds R) run, unknown⟩
  | some s =>
    have rest := h s run
    rw [bind_ok (star_ok found)]
    split <;> rename_i hx <;> rw [hx] at rest
    · exact ⟨rest.journal, rest.scene found⟩
    · exact ⟨⟨rest.1.journal, rest.1.scene found⟩, rest.2⟩

/-- A step on one star of a chart moves the chart as it moves the star. -/
lemma Within.onStar {S : StarSystem → StarSystem → Prop} {x : Gen σ StarSystem α} {id : StarId}
    (h : x.Within kinds S F) (unknown : F (.noSuchStar id))
    (lift : ∀ {a : Atlas} {s t : StarSystem}, a.star? id = some s → S s t → R a (a.setStar id t)) :
    (Gen.onStar id x).Within kinds R F :=
  within_star_bind unknown fun _ => within_onPart h fun moved found => lift found moved

/-- A step on a body of a chart moves the chart as it moves the body. -/
lemma Within.onHost {S : Host → Host → Prop} {x : Gen σ Host Unit} {id : StarId} {orbit : Nat}
    (h : x.Within kinds S F)
    (lift : ∀ {a : Atlas} {host after : Host}, a.host? id orbit = some host → S host after →
      R a (a.setHost id orbit after)) : (Gen.onHost id orbit x).Within kinds R F := by
  refine within_scene_bind fun a => ?_
  cases hosted : a.host? id orbit with
  | none => exact fun run => ⟨.refl kinds run.journal, fun _ => refl_of R run.scene⟩
  | some host => exact within_onPart h fun moved same => lift (same ▸ hosted) moved

end Charts

/-! ## What follows for a run -/

section Consequences

variable {kinds : List Category} {R : ρ → ρ → Prop} {F : Fault → Prop} {x : Gen σ ρ α}

/-- However a step ends, it leaves the scene moved. -/
lemma Within.leaves (h : x.Within kinds R F) (run : Run σ ρ) :
    R run.scene (x.leaves run).scene := by
  have told := h run
  unfold Gen.leaves
  split <;> rename_i hx <;> rw [hx] at told
  · exact told.scene
  · exact told.1.scene

/-- Where a step ends well, the run has moved. -/
lemma Within.moves (h : x.Within kinds R F) {run after : Run σ ρ} {a : α}
    (ended : x run = .ok a after) : run.Moves kinds R after := by
  have told := h run
  rwa [ended] at told

/-- Wherever a step ends, the run has moved. -/
lemma Within.yields (h : x.Within kinds R F) (run : Run σ ρ) :
    x.Yields run fun _ after => run.Moves kinds R after :=
  fun _ _ ended => h.moves ended

/-- A step that ends moves the run, besides what else holds after it. -/
lemma Ends.within [RandomSource σ] {run : Run σ ρ} {Q : α → Run σ ρ → Prop} (h : x.Ends run Q)
    (told : x.Within kinds R F) : x.Ends run fun a after => Q a after ∧ run.Moves kinds R after := by
  have moves := told run
  unfold Ends at h ⊢
  split <;> rename_i hx <;> rw [hx] at h moves
  · exact ⟨h, moves⟩
  · exact h

/-- Whether it ends or fails, the step adds to the journal, and the diagnostics it adds are of the
given categories. -/
def Records (x : Gen σ ρ α) (kinds : List Category) : Prop :=
  ∀ run, match x run with
    | .ok _ after | .error _ after => Journal.Adds kinds run.journal after.journal

/-- A step records what it adds to the journal, wherever it moves the scene. -/
lemma Within.records (h : x.Within kinds R F) : x.Records kinds := by
  intro run
  have told := h run
  split <;> rename_i hx <;> rw [hx] at told
  · exact told.journal
  · exact told.1.journal

end Consequences

end Gen

end Starchart
