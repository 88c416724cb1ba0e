import Starchart.Proofs.Frames

/-!
# Steps that do the same

A parameter of the generator makes no difference when its steps do the same with either of two values.
Two steps are compared from one run: whatever the dice show, they leave the same behind, fault or not.
The comparison follows the program text, and what is known after a part of it is at hand for the rest.

## Main definitions

* `Starchart.Gen.Agrees` — two steps do the same from a run, with what they record and end with.

## Main results

* `Starchart.Gen.Agrees.bind`, `Starchart.Gen.Agrees.forM` — steps in a row, and for each member of a
  list.
* `Starchart.Gen.Within.agrees` — every step agrees with itself.
-/

set_option autoImplicit false

namespace Starchart.Gen

variable {σ ρ τ : Type} {α β : Type}

/-- From `run` the steps `x` and `y` do the same, whether they end or fail.  The diagnostics that
they add to the journal are of the given categories, and where they end, they end as `Q` tells. -/
structure Agrees (kinds : List Category) (x y : Gen σ ρ α) (run : Run σ ρ)
    (Q : α → Run σ ρ → Prop) : Prop where
  same : x run = y run
  adds : match x run with
    | .ok _ after | .error _ after => Journal.Adds kinds run.journal after.journal
  ends : ∀ a after, x run = .ok a after → Q a after

variable {kinds kinds' : List Category} {run : Run σ ρ} {x y : Gen σ ρ α}
  {P Q : α → Run σ ρ → Prop}

/-! ## Rules -/

/-- A step agrees with itself, recording what it does. -/
lemma Within.agrees {R : ρ → ρ → Prop} {F : Fault → Prop} (h : x.Within kinds R F)
    (ends : ∀ a after, x run = .ok a after → Q a after) : Agrees kinds x x run Q :=
  ⟨rfl, h.records run, ends⟩

/-- A step that is known to end agrees with itself. -/
lemma Within.agrees_of_ends [RandomSource σ] {R : ρ → ρ → Prop} {F : Fault → Prop}
    (h : x.Within kinds R F) (spec : x.Ends run Q) : Agrees kinds x x run Q :=
  h.agrees fun _ _ => spec.of_ok

/-- A returned value agrees with itself. -/
lemma agrees_pure {a : α} (done : Q a run) : Agrees kinds (pure a : Gen σ ρ α) (pure a) run Q :=
  (within_pure (R := Anyhow) (F := Fault.Any) a).agrees fun _ _ ended => by cases ended; exact done

namespace Agrees

/-- Less may be told about how the steps end. -/
lemma mono (h : Agrees kinds x y run P) (imp : ∀ a after, P a after → Q a after) :
    Agrees kinds x y run Q :=
  ⟨h.same, h.adds, fun a after ended => imp a after (h.ends a after ended)⟩

/-- More categories may be allowed. -/
lemma allow (h : Agrees kinds x y run Q) (sub : kinds ⊆ kinds') : Agrees kinds' x y run Q := by
  refine ⟨h.same, ?_, h.ends⟩
  have adds := h.adds
  split <;> rename_i hx <;> rw [hx] at adds
  · exact adds.mono sub
  · exact adds.mono sub

/-- Steps that agree end as is known of the first. -/
lemma of_ends [RandomSource σ] (h : Agrees kinds x y run P) (spec : x.Ends run Q) :
    Agrees kinds x y run Q :=
  ⟨h.same, h.adds, fun _ _ => spec.of_ok⟩

/-- Two steps in a row agree if the second ones do wherever the first ones end.

**Proof sketch.** By cases on how the first step ends. A fault ends both programs alike; after an
answer both go on from the same run, and what they add to the journal there follows what was added
before. -/
lemma bind {f g : α → Gen σ ρ β} {Q : β → Run σ ρ → Prop} (hx : Agrees kinds x y run P)
    (hf : ∀ a mid, P a mid → Agrees kinds (f a) (g a) mid Q) :
    Agrees kinds (x >>= f) (y >>= g) run Q := by
  have first := hx.adds
  have same := hx.same
  cases h : x run with
  | error e mid =>
    rw [h] at first same
    refine ⟨?_, ?_, fun b after ended => ?_⟩
    · simp only [Bind.bind, EStateM.bind, h, ← same]
    · simpa only [Bind.bind, EStateM.bind, h] using first
    · simp only [Bind.bind, EStateM.bind, h, reduceCtorEq] at ended
  | ok a mid =>
    have rest := hf a mid (hx.ends a mid h)
    have second := rest.adds
    rw [h] at first same
    refine ⟨?_, ?_, fun b after ended => rest.ends b after ?_⟩
    · simpa only [Bind.bind, EStateM.bind, h, ← same] using rest.same
    · simp only [Bind.bind, EStateM.bind, h]
      split <;> rename_i ha <;> rw [ha] at second
      · exact first.trans second
      · exact first.trans second
    · simpa only [Bind.bind, EStateM.bind, h] using ended

/-- Steps on part of a scene agree if they do as steps of their own.

**Proof sketch.** The scene is put back in the same way whether the step ends or fails, so both
results are those of the part with the scene exchanged. -/
lemma onPart {view : ρ → τ} {update : τ → ρ → ρ} {x y : Gen σ τ α}
    (h : Agrees kinds x y ⟨run.dice, run.journal, view run.scene⟩ fun a inner =>
      Q a ⟨inner.dice, inner.journal, update inner.scene run.scene⟩) :
    Agrees kinds (Gen.onPart view update x) (Gen.onPart view update y) run Q := by
  have adds := h.adds
  have same := h.same
  have ends := h.ends
  cases hx : x ⟨run.dice, run.journal, view run.scene⟩ with
  | error e inner =>
    rw [hx] at adds same
    refine ⟨?_, ?_, fun a after ended => ?_⟩
    · simp only [Gen.onPart, hx, ← same]
    · simpa only [Gen.onPart, hx] using adds
    · simp only [Gen.onPart, hx, reduceCtorEq] at ended
  | ok a inner =>
    rw [hx] at adds same
    refine ⟨?_, ?_, fun b after ended => ?_⟩
    · simp only [Gen.onPart, hx, ← same]
    · simpa only [Gen.onPart, hx] using adds
    · simp only [Gen.onPart, hx, EStateM.Result.ok.injEq] at ended
      obtain ⟨rfl, rfl⟩ := ended
      exact ends a inner hx

/-- Steps for each member of a list agree if each single one does and keeps what they need. -/
lemma forM {xs : List β} {f g : β → Gen σ ρ PUnit} {I : Run σ ρ → Prop}
    (step : ∀ b mid, I mid → Agrees kinds (f b) (g b) mid fun _ after => I after) (start : I run) :
    Agrees kinds (xs.forM f) (xs.forM g) run fun _ after => I after := by
  induction xs generalizing run with
  | nil => exact agrees_pure start
  | cons b xs ih => exact (step b run start).bind fun _ mid kept => ih kept

end Agrees

/-! ## Single steps -/

/-- A fault agrees with itself. -/
lemma agrees_throw (e : Fault) : Agrees kinds (throw e : Gen σ ρ α) (throw e) run Q :=
  (within_throw (R := Anyhow) (F := Fault.Any) trivial).agrees nofun

/-- So does a roll. -/
lemma agrees_roll (x : Roll σ α) :
    Agrees kinds (roll x : Gen σ ρ α) (roll x) run fun _ _ => True :=
  (within_roll (R := Anyhow) x.failsAs_any).agrees fun _ _ _ => trivial

/-- So does a look at the scene. -/
lemma agrees_scene : Agrees kinds (scene : Gen σ ρ ρ) scene run fun here after =>
    here = run.scene ∧ after = run :=
  (within_scene (R := Anyhow) (F := Fault.Any)).agrees fun _ _ looked => by
    cases looked; exact ⟨rfl, rfl⟩

/-- So does a change of the scene. -/
lemma agrees_change (f : ρ → ρ) : Agrees kinds (change f : Gen σ ρ Unit) (change f) run
    fun _ after => after.scene = f run.scene :=
  (within_change (R := Anyhow) (F := Fault.Any) fun _ => trivial).agrees fun _ _ changed => by
    cases changed; rfl

/-- So does recording an event that is no diagnostic. -/
lemma agrees_record {e : Event} (plain : e.diagnostic? = none) :
    Agrees kinds (record e : Gen σ ρ Unit) (record e) run fun _ after => after.scene = run.scene :=
  (within_record (R := Anyhow) (F := Fault.Any) plain).agrees fun _ _ noted => by cases noted; rfl

/-- So does recording a diagnostic. -/
lemma agrees_diagnose {d : Diagnostic} (allowed : d.category ∈ kinds) :
    Agrees kinds (diagnose d : Gen σ ρ Unit) (diagnose d) run
      fun _ after => after.scene = run.scene :=
  (within_diagnose (R := Anyhow) (F := Fault.Any) allowed).agrees fun _ _ noted => by
    cases noted; rfl

/-- So does a pure reading. -/
lemma agrees_ofExcept (x : Except Fault α) :
    Agrees kinds (liftM x : Gen σ ρ α) (liftM x) run fun a after => x = .ok a ∧ after = run :=
  (within_ofExcept (R := Anyhow) (readsAs_any x)).agrees fun _ _ => of_ofExcept_ok

/-! ### On charts -/

/-- A look at a star ends only if the star is known, and changes nothing. -/
lemma of_star_ok {run after : Run σ Atlas} {id : StarId} {s : StarSystem}
    (h : star id run = .ok s after) : run.scene.star? id = some s ∧ after = run := by
  obtain ⟨a, mid, looked, found⟩ := exists_of_bind_ok h
  cases looked
  obtain ⟨found, rfl⟩ := of_ofExcept_ok found
  unfold Atlas.star at found
  split at found
  · rename_i known
    exact ⟨known.trans (congrArg some (Except.ok.inj found)), rfl⟩
  · cases found

/-- A look at a star agrees with itself. -/
lemma agrees_star {run : Run σ Atlas} (id : StarId) :
    Agrees kinds (star id : Gen σ Atlas StarSystem) (star id) run fun s after =>
      run.scene.star? id = some s ∧ after = run :=
  (within_star (R := Anyhow) (F := Fault.Any) trivial).agrees fun _ _ => of_star_ok

/-- So does a look at the main world. -/
lemma agrees_main {run : Run σ Atlas} :
    Agrees kinds (main : Gen σ Atlas World) main run fun w after =>
      w = run.scene.main ∧ after = run :=
  (within_main (R := Anyhow) (F := Fault.Any)).agrees fun _ _ looked => by
    cases looked; exact ⟨rfl, rfl⟩

/-- Steps on the body in a slot agree if they do as steps of their own, if there is one. -/
lemma Agrees.onHost {run : Run σ Atlas} {x y : Gen σ Host Unit} {id : StarId} {orbit : Nat}
    {Q : Unit → Run σ Atlas → Prop} (none : run.scene.host? id orbit = none → Q () run)
    (some : ∀ host, run.scene.host? id orbit = some host →
      Agrees kinds x y ⟨run.dice, run.journal, host⟩ fun u inner =>
        Q u ⟨inner.dice, inner.journal, run.scene.setHost id orbit inner.scene⟩) :
    Agrees kinds (Gen.onHost id orbit x) (Gen.onHost id orbit y) run Q := by
  refine agrees_scene.bind fun a mid ⟨here, same⟩ => ?_
  subst here same
  cases hosted : mid.scene.host? id orbit with
  | none => exact agrees_pure (none hosted)
  | some host => exact (some host hosted).onPart

end Starchart.Gen
