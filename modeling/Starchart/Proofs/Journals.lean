import Mathlib.Tactic.Common
import Starchart.Journal

/-!
# Growing journals

The journal of a run only grows.  What is read off it is therefore read off what was there before and
what was added, and where no diagnostic of a category was added, whatever depends on that category
alone is as before.

## Main definitions

* `Starchart.Journal.Adds` — a longer journal with new diagnostics of given categories only.
* `Starchart.Journal.zoneWarnings` — the warnings about stars without a usable orbit.

## Main results

* `Starchart.Journal.Adds.trans` — a journal may be continued twice.
* `Starchart.Journal.Adds.zoneWarnings_eq` — when there are no more such warnings.
-/

set_option autoImplicit false

namespace Starchart

namespace Journal

/-- Diagnostics are looked up in each part of a journal. -/
lemma diagnostics_append (a b : Journal) :
    (a ++ b).diagnostics = a.diagnostics ++ b.diagnostics :=
  List.filterMap_append

/-- The journal `after` continues `before`, and the diagnostics it adds are of the given
categories. -/
def Adds (kinds : List Category) (before after : Journal) : Prop :=
  ∃ events : Journal, after = before ++ events ∧ ∀ d ∈ events.diagnostics, d.category ∈ kinds

variable {kinds kinds' : List Category} {a b c : Journal}

/-- A diagnostic continues a journal if its category is among those allowed. -/
lemma adds_diagnosed {d : Diagnostic} (allowed : d.category ∈ kinds) (a : Journal) :
    Adds kinds a (a ++ [.diagnosed d]) :=
  ⟨_, rfl, fun _ mem => List.mem_singleton.mp mem ▸ allowed⟩

/-- Any event may continue a journal if it is no diagnostic. -/
lemma adds_plain {e : Event} (plain : e.diagnostic? = none) (a : Journal) : Adds kinds a (a ++ [e]) := by
  refine ⟨[e], rfl, fun d mem => ?_⟩
  rw [diagnostics, List.filterMap_cons_none plain] at mem
  cases mem

/-- A journal continues itself. -/
lemma Adds.refl (kinds : List Category) (a : Journal) : Adds kinds a a :=
  ⟨[], (List.append_nil a).symm, fun _ mem => absurd mem List.not_mem_nil⟩

/-- A journal may be continued twice. -/
lemma Adds.trans (h : Adds kinds a b) (h' : Adds kinds b c) : Adds kinds a c := by
  obtain ⟨first, rfl, ofFirst⟩ := h
  obtain ⟨second, rfl, ofSecond⟩ := h'
  refine ⟨first ++ second, List.append_assoc a first second, fun d mem => ?_⟩
  rw [diagnostics_append] at mem
  rcases List.mem_append.mp mem with mem | mem
  · exact ofFirst d mem
  · exact ofSecond d mem

/-- More categories may be allowed. -/
lemma Adds.mono (h : Adds kinds a b) (sub : kinds ⊆ kinds') : Adds kinds' a b := by
  obtain ⟨events, same, ofKinds⟩ := h
  exact ⟨events, same, fun d mem => sub (ofKinds d mem)⟩

/-- The warnings about stars whose zones offer no usable orbit. -/
def zoneWarnings (j : Journal) : List Diagnostic :=
  j.diagnostics.filter fun d => decide (d.severity = .warning ∧ d.category = .zone)

/-- Such warnings are looked up in each part of a journal. -/
@[simp] lemma zoneWarnings_append (a b : Journal) :
    zoneWarnings (a ++ b) = zoneWarnings a ++ zoneWarnings b := by
  rw [zoneWarnings, diagnostics_append, List.filter_append]
  rfl

/-- Such warnings are read back from a journal that consists of them. -/
lemma zoneWarnings_diagnosed {ds : List Diagnostic}
    (warns : ∀ d ∈ ds, d.severity = .warning ∧ d.category = .zone) :
    zoneWarnings (ds.map .diagnosed) = ds := by
  have all : diagnostics (ds.map .diagnosed) = ds := by
    rw [diagnostics, List.filterMap_map]
    exact List.filterMap_some
  rw [zoneWarnings, all]
  exact List.filter_eq_self.mpr fun d mem => decide_eq_true (warns d mem)

/-- Without diagnostics of their category there are no more such warnings. -/
lemma Adds.zoneWarnings_eq (h : Adds kinds a b) (other : .zone ∉ kinds) :
    zoneWarnings b = zoneWarnings a := by
  obtain ⟨events, rfl, ofKinds⟩ := h
  have none : zoneWarnings events = [] := by
    refine List.filter_eq_nil_iff.mpr fun d mem warns => other ?_
    have warns := of_decide_eq_true warns
    exact warns.2 ▸ ofKinds d mem
  rw [zoneWarnings_append, none, List.append_nil]

end Journal

end Starchart
