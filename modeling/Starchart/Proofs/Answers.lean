import Mathlib.Data.List.Forall2

/-!
# Answers

What a sequence of steps answers that may fail, told by the answers of the steps, for any kind of
failure; and what a search by key answers.

## Main results

* `Starchart.bind_eq_ok_iff`, `Starchart.bind_eq_error_iff` — two steps in a row.
* `Starchart.exists_mapM`, `Starchart.exists_of_mapM`, `Starchart.mapM_eq_ok_iff`,
  `Starchart.exists_error_of_mapM` — one step for each member of a list.
* `Starchart.find?_eq_of_nodup` — a search for a key that occurs once.
-/

set_option autoImplicit false

namespace Starchart

section Answers

variable {α β γ ε : Type}

/-- Two steps in a row answer only if each of them does. -/
lemma bind_eq_ok_iff {x : Except ε α} {f : α → Except ε β} {b : β} :
    (x >>= f) = .ok b ↔ ∃ a, x = .ok a ∧ f a = .ok b := by
  cases x with
  | ok a => exact ⟨fun h => ⟨a, rfl, h⟩, fun ⟨_, rfl, h⟩ => h⟩
  | error e => exact ⟨nofun, nofun⟩

/-- They fail only if one of them does. -/
lemma bind_eq_error_iff {x : Except ε α} {f : α → Except ε β} {e : ε} :
    (x >>= f) = .error e ↔ x = .error e ∨ ∃ a, x = .ok a ∧ f a = .error e := by
  cases x with
  | ok a => exact ⟨fun h => .inr ⟨a, rfl, h⟩, by rintro (⟨⟨⟩⟩ | ⟨_, ⟨⟩, h⟩); exact h⟩
  | error e' => exact ⟨fun h => by cases h; exact .inl rfl, by rintro (⟨⟨⟩⟩ | ⟨_, ⟨⟩, _⟩); rfl⟩

/-- A traversal ends if it can handle every member of the list. -/
lemma exists_mapM {f : α → Except ε β} {xs : List α} (h : ∀ x ∈ xs, ∃ y, f x = .ok y) :
    ∃ ys, xs.mapM f = .ok ys := by
  induction xs with
  | nil => exact ⟨[], rfl⟩
  | cons x xs ih =>
    obtain ⟨y, hy⟩ := h x List.mem_cons_self
    obtain ⟨ys, hys⟩ := ih fun x hx => h x (List.mem_cons_of_mem _ hx)
    exact ⟨y :: ys, by rw [List.mapM_cons, hy, hys]; rfl⟩

/-- A traversal that ends gives one answer for each member of the list. -/
lemma mapM_eq_ok_iff {f : α → Except ε β} {xs : List α} {ys : List β} :
    xs.mapM f = .ok ys ↔ List.Forall₂ (fun x y => f x = .ok y) xs ys := by
  induction xs generalizing ys with
  | nil =>
    rw [List.forall₂_nil_left_iff]
    exact ⟨fun h => (Except.ok.inj h).symm, fun h => h ▸ rfl⟩
  | cons x xs ih =>
    simp only [List.mapM_cons, bind_eq_ok_iff, List.forall₂_cons_left_iff, ih]
    constructor
    · rintro ⟨y, first, zs, rest, h⟩
      exact ⟨y, zs, first, rest, (Except.ok.inj h).symm⟩
    · rintro ⟨y, zs, first, rest, rfl⟩
      exact ⟨y, first, zs, rest, rfl⟩

/-- A traversal that ends handles every member of the list. -/
lemma exists_of_mapM {f : α → Except ε β} {xs : List α} {ys : List β} (h : xs.mapM f = .ok ys)
    {x : α} (mem : x ∈ xs) : ∃ y ∈ ys, f x = .ok y := by
  have each := mapM_eq_ok_iff.mp h
  clear h
  induction each with
  | nil => cases mem
  | cons first _ ih =>
    rcases List.mem_cons.mp mem with rfl | mem
    · exact ⟨_, List.mem_cons_self, first⟩
    · obtain ⟨y, among, same⟩ := ih mem
      exact ⟨y, List.mem_cons_of_mem _ among, same⟩

/-- A traversal that fails does so at a member of the list.

**Proof sketch.** By induction on the list. The first member may fail; otherwise it answers, and
then the traversal of the others fails. -/
lemma exists_error_of_mapM {f : α → Except ε β} {xs : List α} {e : ε} (h : xs.mapM f = .error e) :
    ∃ x ∈ xs, f x = .error e := by
  induction xs with
  | nil => cases h
  | cons x xs ih =>
    rw [List.mapM_cons] at h
    cases first : f x with
    | error e' =>
      rw [first] at h
      cases h
      exact ⟨x, List.mem_cons_self, first⟩
    | ok y =>
      cases rest : xs.mapM f with
      | error e' =>
        rw [first, rest] at h
        cases h
        obtain ⟨x', mem, failed⟩ := ih rest
        exact ⟨x', List.mem_cons_of_mem _ mem, failed⟩
      | ok ys =>
        rw [first, rest] at h
        cases h

/-- Traversing the parts of a list one after the other traverses the list. -/
lemma mapM_flatMap (parts : α → List β) (f : β → Except ε γ) (xs : List α) :
    (xs.flatMap parts).mapM f = List.flatten <$> xs.mapM fun x => (parts x).mapM f := by
  induction xs with
  | nil => rfl
  | cons x xs ih =>
    rw [List.flatMap_cons, List.mapM_append, ih, List.mapM_cons]
    cases (parts x).mapM f with
    | error e => rfl
    | ok ys => cases xs.mapM fun x => (parts x).mapM f <;> rfl

/-- Where a key occurs once only, it finds what it belongs to. -/
lemma find?_eq_of_nodup [BEq β] [LawfulBEq β] {key : α → β} {xs : List α}
    (apart : (xs.map key).Nodup) {x : α} (mem : x ∈ xs) :
    xs.find? (fun y => key y == key x) = some x := by
  induction xs with
  | nil => cases mem
  | cons y ys ih =>
    obtain ⟨fresh, apart⟩ := List.nodup_cons.mp apart
    rcases List.mem_cons.mp mem with rfl | mem
    · exact List.find?_cons_of_pos (beq_self_eq_true _)
    · have other : (key y == key x) = false :=
        beq_eq_false_iff_ne.mpr fun same => fresh (same ▸ List.mem_map_of_mem mem)
      rw [List.find?_cons, other]
      exact ih apart mem

end Answers

end Starchart
