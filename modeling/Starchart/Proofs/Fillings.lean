import Mathlib.Data.Set.Card
import Starchart.Proofs.Decisions

/-!
# Filled slots

Bodies that are placed one after the other take undecided slots and leave all others alone.  What that
comes to is told slot by slot: which slots were filled in between, and with what.

## Main definitions

* `Starchart.StarSystem.Fills` — a star some of whose undecided slots were filled.
* `Starchart.StarSystem.Placings` — bodies placed one after the other on given orbits.

## Main results

* `Starchart.StarSystem.fills_markEmpties` — marking orbits fills those that are undecided.
* `Starchart.StarSystem.Placings.fills`, `Starchart.StarSystem.Placings.ncard_eq` — bodies that are
  placed fill one slot each.
* `Starchart.StarSystem.Placings.decisions` — placing what was rolled makes decisions.
-/

set_option autoImplicit false

namespace Starchart.StarSystem

/-! ## Filling slots -/

/-- From star `s` to star `t`, the slots with the given numbers were filled: they were undecided and
now hold content that suits them.  Nothing else has changed. -/
structure Fills (s : StarSystem) (filled : Set Nat) (Suits : Nat → Slot → Prop) (t : StarSystem) :
    Prop where
  frame : t = { s with slots := t.slots }
  length : t.slots.length = s.slots.length
  kept : ∀ i ∉ filled, t.slots[i]? = s.slots[i]?
  content : ∀ i ∈ filled, s.slots[i]? = some .undecided ∧
    ∃ body, t.slots[i]? = some body ∧ body ≠ .undecided ∧ Suits i body

namespace Fills

variable {s t u : StarSystem} {filled filled' : Set Nat} {Suits Suits' : Nat → Slot → Prop}

/-- Nothing needs to be filled. -/
lemma refl (s : StarSystem) : s.Fills ∅ Suits s :=
  ⟨rfl, rfl, fun _ _ => rfl, fun _ mem => absurd mem (Set.notMem_empty _)⟩

/-- Filling slots leaves a star alike. -/
lemma alike (h : s.Fills filled Suits t) : s.Alike t := by
  have length := h.length
  rw [h.frame] at length ⊢
  exact ⟨rfl, rfl, rfl, rfl, length, rfl, rfl⟩

/-- There are as many slots as the capacity says also when some are filled. -/
lemma fitted (h : s.Fills filled Suits t) (fitted : s.slots.length = s.maxOrbits.toNat) :
    t.slots.length = t.maxOrbits.toNat := by
  rw [h.length, h.alike.maxOrbits, fitted]

/-- What was decided stays. -/
lemma decided (h : s.Fills filled Suits t) {i : Nat} {content : Slot}
    (held : s.slots[i]? = some content) (decided : content ≠ .undecided) :
    t.slots[i]? = some content := by
  refine (h.kept i fun mem => decided ?_).trans held
  exact Option.eq_some_unique held (h.content i mem).1

/-- What is undecided afterwards was not filled. -/
lemma undecided_iff (h : s.Fills filled Suits t) {i : Nat} :
    t.slots[i]? = some .undecided ↔ s.slots[i]? = some .undecided ∧ i ∉ filled := by
  by_cases mem : i ∈ filled
  · obtain ⟨-, body, held, decided, -⟩ := h.content i mem
    refine iff_of_false (fun free => decided ?_) fun free => free.2 mem
    exact Option.eq_some_unique held free
  · rw [h.kept i mem]
    exact (and_iff_left mem).symm

/-- Where nothing is undecided afterwards, all that was undecided was filled. -/
lemma filled_eq (h : s.Fills filled Suits t) (done : ∀ i : Nat, t.slots[i]? ≠ some .undecided) :
    filled = {i : Nat | s.slots[i]? = some .undecided} := by
  ext i
  refine ⟨fun mem => (h.content i mem).1, fun free => ?_⟩
  by_contra apart
  exact done i (h.undecided_iff.mpr ⟨free, apart⟩)

/-- The content may suit in a weaker sense. -/
lemma mono (h : s.Fills filled Suits t)
    (imp : ∀ i body, i ∈ filled → Suits i body → Suits' i body) : s.Fills filled Suits' t where
  frame := h.frame
  length := h.length
  kept := h.kept
  content i mem := by
    obtain ⟨free, body, held, decided, suits⟩ := h.content i mem
    exact ⟨free, body, held, decided, imp i body mem suits⟩

/-- Slots may be filled one after the other. -/
lemma trans (h : s.Fills filled Suits t) (h' : t.Fills filled' Suits u) :
    s.Fills (filled ∪ filled') Suits u where
  frame := by rw [h'.frame, h.frame]
  length := h'.length.trans h.length
  kept i apart := by
    rw [Set.mem_union, not_or] at apart
    exact (h'.kept i apart.2).trans (h.kept i apart.1)
  content i mem := by
    by_cases first : i ∈ filled
    · obtain ⟨free, body, held, decided, suits⟩ := h.content i first
      exact ⟨free, body, h'.decided held decided, decided, suits⟩
    · obtain ⟨free, rest⟩ := h'.content i (mem.resolve_left first)
      exact ⟨(h.kept i first).symm.trans free, rest⟩

end Fills

variable {s t : StarSystem} {Suits : Nat → Slot → Prop}

/-- One undecided slot may be filled. -/
lemma fills_set {i : Nat} {body : Slot} (free : s.slots[i]? = some .undecided)
    (decided : body ≠ .undecided) (suits : Suits i body) :
    s.Fills {i} Suits { s with slots := s.slots.set i body } where
  frame := rfl
  length := List.length_set
  kept j other := List.getElem?_set_ne fun same => other (Set.mem_singleton_iff.mpr same.symm)
  content j same := by
    obtain rfl := Set.mem_singleton_iff.mp same
    have lt := (List.getElem?_eq_some_iff.mp free).1
    exact ⟨free, body, List.getElem?_set_self lt, decided, suits⟩

/-! ## Marking orbits -/

/-- Marking an orbit to stay empty fills its slot, if that is undecided.

**Proof sketch.** A slot that is undecided is set to empty, and it is the only one with the number
of the orbit. Otherwise no slot is marked and none is to be filled. -/
lemma fills_markEmpty (fitted : s.slots.length = s.maxOrbits.toNat) (orbit : Int) :
    s.Fills {i : Nat | (i : Int) = orbit ∧ s.slots[i]? = some .undecided}
      (fun i body => body = .empty i) (s.markEmpty orbit).2 := by
  unfold markEmpty
  split
  · rename_i free
    obtain ⟨i, rfl, held⟩ := held_of_isUndecided free
    have only : {j : Nat | (j : Int) = i ∧ s.slots[j]? = some .undecided} = {i} := by
      ext j
      simp only [Set.mem_ofPred_eq, Set.mem_singleton_iff, Int.natCast_inj]
      exact ⟨And.left, fun same => ⟨same, same ▸ held⟩⟩
    rw [only]
    exact fills_set held nofun rfl
  · rename_i decided
    have none : {j : Nat | (j : Int) = orbit ∧ s.slots[j]? = some .undecided} = ∅ := by
      refine Set.eq_empty_iff_forall_notMem.mpr ?_
      rintro j ⟨rfl, held⟩
      exact decided ((isUndecided_iff fitted).mpr ⟨j, rfl, held⟩)
    rw [none]
    exact .refl s

/-- Marking orbits to stay empty fills those of their slots that are undecided.

**Proof sketch.** By induction on the orbits. Marks in a row are fillings in a row; a slot that an
earlier one filled is not undecided any more, so that together they fill the slots that were
undecided at the start. -/
lemma fills_markEmpties (fitted : s.slots.length = s.maxOrbits.toNat) (orbits : List Int) :
    s.Fills {i : Nat | (i : Int) ∈ orbits ∧ s.slots[i]? = some .undecided}
      (fun i body => body = .empty i) (s.markEmpties orbits) := by
  induction orbits generalizing s with
  | nil =>
    have none : {i : Nat | (i : Int) ∈ ([] : List Int) ∧ s.slots[i]? = some .undecided} = ∅ := by
      simp
    rw [none]
    exact .refl s
  | cons orbit rest ih =>
    have first := fills_markEmpty fitted orbit
    have both := first.trans (ih (first.fitted fitted))
    -- a slot that the first mark has filled is not filled again
    have filled : {i : Nat | (i : Int) = orbit ∧ s.slots[i]? = some .undecided} ∪
        {i : Nat | (i : Int) ∈ rest ∧ (s.markEmpty orbit).2.slots[i]? = some .undecided} =
        {i : Nat | (i : Int) ∈ orbit :: rest ∧ s.slots[i]? = some .undecided} := by
      ext i
      simp only [Set.mem_union, Set.mem_ofPred_eq, first.undecided_iff, List.mem_cons]
      tauto
    rwa [filled] at both

/-- None of the orbits that were marked to stay empty is undecided. -/
lemma markEmpties_ne_undecided (fitted : s.slots.length = s.maxOrbits.toNat) (orbits : List Int)
    {i : Nat} (mem : (i : Int) ∈ orbits) : (s.markEmpties orbits).slots[i]? ≠ some .undecided := by
  intro free
  obtain ⟨before, apart⟩ := (fills_markEmpties fitted orbits).undecided_iff.mp free
  exact apart ⟨mem, before⟩

/-! ## Placing bodies -/

/-- Bodies placed one after the other on the given orbits, each in a slot that is undecided then and
that it suits. -/
inductive Placings (Suits : Nat → Slot → Prop) : List Int → StarSystem → StarSystem → Prop
  | nil (s : StarSystem) : Placings Suits [] s s
  | cons {i : Nat} {body : Slot} {orbits : List Int} {s t : StarSystem}
      (free : s.slots[i]? = some .undecided) (suits : Suits i body)
      (rest : Placings Suits orbits { s with slots := s.slots.set i body } t) :
      Placings Suits (i :: orbits) s t

namespace Placings

variable {orbits : List Int}

/-- Placing bodies leaves a star alike. -/
lemma alike (h : Placings Suits orbits s t) : s.Alike t := by
  induction h with
  | nil s => exact .refl s
  | cons free suits rest ih => exact (alike_set _ _ _).trans ih

/-- What is undecided afterwards was undecided before. -/
lemma undecided (h : Placings Suits orbits s t) {j : Nat} (free : t.slots[j]? = some .undecided) :
    s.slots[j]? = some .undecided := by
  induction h with
  | nil s => exact free
  | @cons i body orbits s t taken suits rest ih =>
    by_cases same : i = j
    · exact same ▸ taken
    · exact (List.getElem?_set_ne same).symm.trans (ih free)

/-- Bodies that are placed fill the slots of their orbits. -/
theorem fills (h : Placings Suits orbits s t)
    (decided : ∀ {i : Nat} {body : Slot}, Suits i body → body ≠ .undecided) :
    s.Fills {i : Nat | (i : Int) ∈ orbits} Suits t := by
  induction h with
  | nil s =>
    have none : {i : Nat | (i : Int) ∈ ([] : List Int)} = ∅ := by simp
    rw [none]
    exact .refl s
  | @cons i body orbits s t free suits rest ih =>
    have both := (fills_set free (decided suits) suits).trans ih
    have filled : {i} ∪ {j : Nat | (j : Int) ∈ orbits} =
        {j : Nat | (j : Int) ∈ (i : Int) :: orbits} := by
      ext j
      simp
    rwa [filled] at both

/-- A slot that was taken is not taken again. -/
lemma notMem {i : Nat} {body : Slot} (free : s.slots[i]? = some .undecided)
    (rest : Placings Suits orbits { s with slots := s.slots.set i body } t)
    (decided : ∀ {i : Nat} {body : Slot}, Suits i body → body ≠ .undecided)
    (suits : Suits i body) : (i : Int) ∉ orbits := by
  intro again
  have held := ((rest.fills decided).content i again).1
  rw [List.getElem?_set_self (List.getElem?_eq_some_iff.mp free).1] at held
  exact decided suits (Option.some.inj held)

/-- No orbit is taken twice. -/
lemma nodup (h : Placings Suits orbits s t)
    (decided : ∀ {i : Nat} {body : Slot}, Suits i body → body ≠ .undecided) : orbits.Nodup := by
  induction h with
  | nil s => exact List.nodup_nil
  | cons free suits rest ih => exact List.nodup_cons.mpr ⟨rest.notMem free decided suits, ih⟩

/-- Each body has a slot of its own. -/
theorem ncard_eq (h : Placings Suits orbits s t)
    (decided : ∀ {i : Nat} {body : Slot}, Suits i body → body ≠ .undecided) :
    {i : Nat | (i : Int) ∈ orbits}.ncard = orbits.length := by
  induction h with
  | nil s => simp
  | @cons i body orbits s t free suits rest ih =>
    have apart : i ∉ {j : Nat | (j : Int) ∈ orbits} := rest.notMem free decided suits
    have finite : {j : Nat | (j : Int) ∈ orbits}.Finite :=
      (List.finite_toSet orbits).preimage (Nat.cast_injective.injOn)
    have filled : {j : Nat | (j : Int) ∈ (i : Int) :: orbits} =
        insert i {j : Nat | (j : Int) ∈ orbits} := by
      ext j
      simp
    rw [filled, Set.ncard_insert_of_notMem apart finite, ih, List.length_cons]

/-- Placing what was rolled for the slots makes decisions. -/
theorem decisions {σ : Type} [RandomSource σ] {main : World} {r : StarSystem}
    (h : Placings Suits orbits s t) (alike : r.Alike s)
    (rolled : ∀ {i : Nat} {body : Slot}, Suits i body → body.Rolled σ main r i) :
    Decisions σ main s t := by
  induction h with
  | nil s => exact .refl
  | cons free suits rest ih =>
    have first := Decide.intro free ((rolled suits).congr alike rfl)
    exact .head first (ih (alike.trans first.alike))

end Placings

end Starchart.StarSystem
