import Starchart.Proofs.Echoes
import Starchart.Proofs.Keeping

/-!
# Charts of two runs

Two runs are abreast on the same chart, in which the main world has the name of either run.  A star does
not hold the main world itself, so stars are the same in both; a body is the same unless it is the main
world.

## Main definitions

* `Starchart.World.renamed` — a world under another name.
* `Starchart.StarSystem.Twin`, `Starchart.Host.Twin`, `Starchart.Atlas.Twin` — what stars, bodies and
  charts of the two runs have to do with each other.

## Main results

* `Starchart.StarSystem.answers_place`, `Starchart.StarSystem.answers_force` — bodies are placed alike.
* `Starchart.Gen.Mirrors.onStar`, `Starchart.Gen.mirrors_onHost` — steps on one star or body.
* `Starchart.Gen.mirrors_forceMain` — the main world displaces the same body in both runs.
-/

set_option autoImplicit false

namespace Starchart

/-- The world under another name. -/
def World.renamed (w : World) (name : String) : World := { w with name := name }

/-! ## Stars -/

/-- Anything at all may be in a slot. -/
abbrev Slot.Any (_ : Slot) : Prop := True

/-- Anything but the main world may be in a slot. -/
abbrev Slot.IsOther (content : Slot) : Prop := content ≠ .main

/-- A body that is not the main world is none when it is stamped. -/
lemma Slot.stamp_ne_main {body : Slot} (own : body ≠ .main) (orbit : Int) :
    body.stamp orbit ≠ .main := by
  cases body with
  | main => exact absurd rfl own
  | _ => nofun

/-- Every slot of the star holds what `P` tells. -/
def StarSystem.Holds (P : Slot → Prop) (s : StarSystem) : Prop := ∀ content ∈ s.slots, P content

/-- The same star, which holds what `P` tells. -/
def StarSystem.Twin (P : Slot → Prop) (s t : StarSystem) : Prop := t = s ∧ s.Holds P

namespace StarSystem

variable {P : Slot → Prop} {s t : StarSystem}

/-- A star holds what is put into its slots. -/
lemma Holds.setSlot (h : s.Holds P) {content : Slot} (held : P content) (orbit : Int) :
    (s.setSlot orbit content).Holds P := by
  intro other mem
  rcases List.mem_or_eq_of_mem_set mem with mem | rfl
  · exact h other mem
  · exact held

/-- Orbits may be marked to stay empty. -/
lemma Holds.markEmpty (h : s.Holds P) (empty : ∀ orbit, P (.empty orbit)) (orbit : Int) :
    (s.markEmpty orbit).2.Holds P := by
  unfold StarSystem.markEmpty
  split
  · exact h.setSlot (empty orbit) orbit
  · exact h

/-- So may several. -/
lemma Holds.markEmpties (h : s.Holds P) (empty : ∀ orbit, P (.empty orbit)) (orbits : List Int) :
    (s.markEmpties orbits).Holds P := by
  induction orbits generalizing s with
  | nil => exact h
  | cons orbit rest ih => exact ih (h.markEmpty empty orbit)

/-- Nothing is in the slots of a new star. -/
lemma holds_bare (undecided : P .undecided) (name : String) (star : Star) (orbit maxOrbits : Int) :
    (bare name star orbit maxOrbits).Holds P := fun _ mem =>
  List.eq_of_mem_replicate mem ▸ undecided

/-- A body is placed alike whatever the main world is called, or it is refused in words that differ
in that name. -/
lemma answers_place {N : Pairing} (h : s.Twin P t) {body : Slot} {orbit : Int}
    (held : P (body.stamp orbit)) :
    N.Answers (Twin P) (s.place N.name body orbit) (t.place N.name' body orbit) := by
  obtain ⟨rfl, holds⟩ := h
  by_cases free : t.isUndecided orbit
  · simp only [place, if_pos free]
    exact ⟨rfl, holds.setSlot held orbit⟩
  · simp only [place, if_neg free, refusal]
    cases t.slotAt? orbit with
    | none => exact .same _
    | some content => cases content <;> first | exact .same _ | exact .occupied _ _

/-- A body is placed by force alike in both runs, and what it displaces is the same. -/
lemma answers_force {Q : Slot → Prop} {N : Pairing} (h : s.Twin P t) {body : Slot} {orbit : Int}
    (held : Q (body.stamp orbit)) (weaker : ∀ content, P content → Q content) :
    N.Answers (fun v w => w.1 = v.1 ∧ P v.1 ∧ v.2.Twin Q w.2) (s.force body orbit)
      (t.force body orbit) := by
  obtain ⟨rfl, holds⟩ := h
  unfold force
  cases content : t.slotAt? orbit with
  | none => exact .same _
  | some previous =>
    obtain ⟨i, -, held'⟩ := held_of_slotAt? content
    have mem : previous ∈ t.slots := List.mem_of_getElem? held'
    have rest : t.Holds Q := fun content mem => weaker content (holds content mem)
    exact ⟨rfl, holds previous mem, rfl, rest.setSlot held orbit⟩

end StarSystem

/-! ## Bodies -/

/-- The orbit of a satellite is the same whatever the main world is called. -/
lemma Moon.orbit_renamed (main : World) (name : String) (moon : Moon World) :
    (moon.body (main.renamed name)).orbit = (moon.body main).orbit := by
  cases moon <;> rfl

/-- So are the orbits of the satellites of a body. -/
lemma Host.takenOrbits_renamed (main : World) (name : String) (host : Host) :
    host.takenOrbits (main.renamed name) = host.takenOrbits main :=
  List.map_congr_left fun moon _ => Moon.orbit_renamed main name moon

/-- The same body, or the main world under the name that it has in either run. The flag tells
whether it is the main world. -/
inductive Host.Twin (N : Pairing) : Bool → Host → Host → Prop where
  | other (host : Host) : Twin N false host host
  | main {w : World} (named : w.name = N.name) :
      Twin N true (.world w) (.world (w.renamed N.name'))

namespace Host.Twin

variable {N : Pairing} {isMain : Bool} {host other : Host}

/-- Such bodies have the same satellites. -/
lemma satellites (h : Twin N isMain host other) : other.satellites = host.satellites := by
  cases h <;> rfl

/-- They are in the same place. -/
lemma position (h : Twin N isMain host other) : other.position = host.position := by
  cases h <;> rfl

/-- They stay so with other satellites. -/
lemma withSatellites (h : Twin N isMain host other) (moons : List (Moon World)) :
    Twin N isMain (host.withSatellites moons) (other.withSatellites moons) := by
  cases h with
  | other => exact .other _
  | main named => exact .main named

variable {σ : Type} [RandomSource σ]

/-- They get as many satellites. -/
lemma rollCount (h : Twin N isMain host other) :
    (other.rollCount : Roll σ Int) = host.rollCount := by
  cases h <;> rfl

/-- Their satellites are as large. -/
lemma rollSize (h : Twin N isMain host other) :
    (other.rollSize : Roll σ Int) = host.rollSize := by
  cases h <;> rfl

/-- The search for the orbit of a satellite is the same around either of them, whatever the main
world is called. -/
lemma findOrbit {ρ : Type} (h : Twin N isMain host other) (main : World) (ring : Bool)
    (limit : Int) :
    (Satellite.findOrbit (main.renamed N.name') other ring limit : Gen σ ρ Int) =
      Satellite.findOrbit main host ring limit := by
  have taken : other.takenOrbits (main.renamed N.name') = host.takenOrbits main := by
    rw [takenOrbits_renamed, takenOrbits, h.satellites, takenOrbits]
  have rolled : (Satellite.rollOrbit other ring : Roll σ Int) = Satellite.rollOrbit host ring := by
    cases h <;> rfl
  simp only [Satellite.findOrbit, taken, rolled]

end Host.Twin

/-! ## Charts -/

/-- A body as the content of a slot. -/
def Host.slot : Host → Slot
  | world w => .world w
  | giant g => .giant g

/-- Such a content is not the main world of the chart. -/
lemma Host.slot_ne_main (host : Host) : host.slot ≠ .main := by
  cases host <;> nofun

/-- Every slot of the chart holds what `P` tells. -/
def Atlas.Holds (P : Slot → Prop) (a : Atlas) : Prop := ∀ s ∈ a.stars, s.Holds P

/-- The same chart around a main world that has the name of the other run, and whose slots hold what
`P` tells. -/
structure Atlas.Twin (N : Pairing) (P : Slot → Prop) (a b : Atlas) : Prop where
  named : a.main.name = N.name
  eq : b = { a with main := a.main.renamed N.name' }
  held : a.Holds P

namespace Atlas

variable {N : Pairing} {P : Slot → Prop} {a b : Atlas} {id : StarId} {s : StarSystem}

/-- A known star holds what all stars do. -/
lemma Holds.star (h : a.Holds P) (found : a.star? id = some s) : s.Holds P :=
  h s (List.mem_of_getElem? found)

/-- A star may be replaced. -/
lemma Holds.setStar (h : a.Holds P) (held : s.Holds P) (id : StarId) : (a.setStar id s).Holds P := by
  intro t mem
  rcases List.mem_or_eq_of_mem_set mem with mem | rfl
  · exact h t mem
  · exact held

/-- It may be changed. -/
lemma Holds.modifyStar (h : a.Holds P) {f : StarSystem → StarSystem}
    (keeps : ∀ s : StarSystem, s.Holds P → (f s).Holds P) (id : StarId) :
    (a.modifyStar id f).Holds P := by
  cases found : a.star? id with
  | none =>
    rw [modifyStar_of_none found]
    exact h
  | some s =>
    rw [modifyStar_eq found]
    exact h.setStar (keeps s (h.star found)) id

/-- A body with satellites may be changed elsewhere than where the main world stands, which leaves
that alone. -/
lemma setHost_of_ne_main {i : Nat} {content : Slot} (held : a.slot? id i = some content)
    (own : content ≠ .main) (host : Host) :
    a.setHost id i host = a.modifyStar id fun s => { s with slots := s.slots.set i host.slot } := by
  have held : (a.star? id).bind (·.slots[i]?) = some content := held
  unfold setHost
  rw [held]
  cases host <;> cases content <;> first | rfl | exact absurd rfl own

/-- What is put into a slot is held there. -/
lemma Holds.setSlot (h : a.Holds P) (i : Nat) {content : Slot} (held : P content) :
    (a.modifyStar id fun s => { s with slots := s.slots.set i content }).Holds P := by
  refine h.modifyStar (fun s holds other mem => ?_) id
  rcases List.mem_or_eq_of_mem_set mem with mem | rfl
  · exact holds other mem
  · exact held

/-- Less may be told about the slots. -/
lemma Twin.mono {Q : Slot → Prop} (h : a.Twin N P b) (weaker : ∀ content, P content → Q content) :
    a.Twin N Q b :=
  ⟨h.named, h.eq, fun s mem content held => weaker content (h.held s mem content held)⟩

/-- Both runs have the same stars. -/
lemma Twin.star? (h : a.Twin N P b) (id : StarId) : b.star? id = a.star? id := by
  rw [h.eq]
  rfl

/-- Both runs find the same star. -/
lemma Twin.answers_star (h : a.Twin N P b) (id : StarId) :
    N.Answers (StarSystem.Twin P) (a.star id) (b.star id) := by
  rw [star, star, h.star?]
  cases found : a.star? id with
  | none => exact .same _
  | some s => exact ⟨rfl, h.held.star found⟩

/-- Both runs refer to the same star. -/
lemma Twin.answers_starSlot (h : a.Twin N P b) (id : StarId) :
    N.Answers (fun v w => w = v ∧ v ≠ .main) (a.starSlot id) (b.starSlot id) := by
  have same := h.answers_star id
  unfold starSlot
  cases known : a.star id <;> cases known' : b.star id <;> rw [known, known'] at same
  · exact same
  · exact same.elim
  · exact same.elim
  · obtain ⟨rfl, -⟩ := same
    exact ⟨rfl, nofun⟩

/-- A star may be replaced in both runs. -/
lemma Twin.setStar (h : a.Twin N P b) {t : StarSystem} (same : s.Twin P t) (id : StarId) :
    (a.setStar id s).Twin N P (b.setStar id t) := by
  obtain ⟨named, rfl, held⟩ := h
  obtain ⟨rfl, kept⟩ := same
  exact ⟨named, rfl, held.setStar kept id⟩

/-- The main world may be changed alike in both runs. -/
lemma Twin.changeMain (h : a.Twin N P b) {f g : World → World}
    (alike : ∀ w, w.name = N.name → (f w).name = N.name ∧
      g (w.renamed N.name') = (f w).renamed N.name') :
    Twin N P { a with main := f a.main } { b with main := g b.main } := by
  obtain ⟨named, rfl, held⟩ := h
  obtain ⟨named', same⟩ := alike a.main named
  exact ⟨named', by rw [same], held⟩

/-- The same star may be changed in both runs. -/
lemma Twin.modifyStar {Q : Slot → Prop} (h : a.Twin N P b) {f : StarSystem → StarSystem}
    (kept : (a.modifyStar id f).Holds Q) : (a.modifyStar id f).Twin N Q (b.modifyStar id f) := by
  obtain ⟨named, rfl, _⟩ := h
  exact ⟨named, rfl, kept⟩

/-- A body that is not the main world may be stamped in both runs. -/
lemma Twin.stamp (h : a.Twin N P b) {body : Slot} (orbit : Int) (own : body ≠ .main) :
    (a.stamp orbit body).Twin N P (b.stamp orbit body) := by
  cases body with
  | star id =>
    exact h.modifyStar (h.held.modifyStar (f := fun s => { s with orbit := orbit })
      (fun _ held => held) id)
  | main => exact absurd rfl own
  | _ => exact h

/-- In either run a slot has no body with satellites, or one of the same kind, which may be changed
in both.

**Proof sketch.** The slots of the twins are the same. If a slot has the main world, its body is the
main world of either chart, and changing it there changes the world that is shared. Any other body
is in the slot itself; it is the same one in both charts, since no such body tells about the main
world, and it is changed alike in the stars of both. -/
lemma Twin.hosts (h : a.Twin N P b) (bodies : ∀ content : Slot, content ≠ .main → P content)
    (id : StarId) (i : Nat) : (a.host? id i = none ∧ b.host? id i = none) ∨
      ∃ isMain host other, a.host? id i = some host ∧ b.host? id i = some other ∧
        host.Twin N isMain other ∧ ∀ after after' : Host, after.Twin N isMain after' →
          (a.setHost id i after).Twin N P (b.setHost id i after') := by
  have same : b.slot? id i = a.slot? id i := by rw [slot?, h.star?, slot?]
  rw [host?_eq, host?_eq, same]
  cases content : a.slot? id i with
  | none => exact .inl ⟨rfl, rfl⟩
  | some held =>
    by_cases own : held = .main
    -- the main world itself, which is changed in each chart under its name there
    · subst own
      rw [h.eq] at same ⊢
      refine .inr ⟨true, .world a.main, _, rfl, rfl, .main h.named, fun after after' twin => ?_⟩
      cases twin with
      | main named =>
        rw [setHost_main content, setHost_main (same.trans content)]
        exact ⟨named, rfl, h.held⟩
    -- a body that the slot holds, which is the same one in both charts
    · have bodily : held.host? b.main = held.host? a.main := by
        cases held <;> first | rfl | exact absurd rfl own
      rw [Option.bind_some, Option.bind_some, bodily]
      cases hosted : held.host? a.main with
      | none => exact .inl ⟨rfl, rfl⟩
      | some host =>
        refine .inr ⟨false, host, host, rfl, rfl, .other host, fun after after' twin => ?_⟩
        cases twin with
        | other =>
          rw [setHost_of_ne_main content own, setHost_of_ne_main (same.trans content) own]
          exact h.modifyStar (h.held.setSlot i (bodies _ after.slot_ne_main))

end Atlas

namespace Gen

open Atlas (Twin)

variable {σ α : Type} {N : Pairing} {P : Slot → Prop} {R : Atlas → Atlas → Prop}
  {T : α → α → Prop} {id : StarId}

/-- Both runs look at the same star. -/
lemma mirrors_scene_bind {R : StarSystem → StarSystem → Prop} {f g : StarSystem → Gen σ StarSystem α}
    (h : ∀ s, Mirrors N (StarSystem.Twin P) R T (f s) (g s)) :
    Mirrors N (StarSystem.Twin P) R T (scene >>= f) (scene >>= g) :=
  mirrors_scene.bind fun s _ same => same.1 ▸ h s

/-- Both runs find the same star. -/
lemma mirrors_star_bind {f g : StarSystem → Gen σ Atlas α}
    (h : ∀ s, s.Holds P → Mirrors N (Twin N P) R T (f s) (g s)) :
    Mirrors N (Twin N P) R T (star id >>= f) (star id >>= g) := by
  have look : Mirrors N (Twin N P) (Twin N P) (StarSystem.Twin P)
      (star id : Gen σ Atlas StarSystem) (star id) :=
    mirrors_scene.bind fun a b twin => mirrors_ofExcept_of (twin.answers_star id)
  exact look.bind fun s _ ⟨same, held⟩ => same ▸ h s held

/-- Both runs look at the main world under its name. -/
lemma mirrors_main_bind {f g : World → Gen σ Atlas α}
    (h : ∀ w, w.name = N.name → Mirrors N (Twin N P) R T (f w) (g (w.renamed N.name'))) :
    Mirrors N (Twin N P) R T (main >>= f) (main >>= g) := by
  intro run run' abreast
  rw [main_bind, main_bind, abreast.scene.eq]
  exact h _ abreast.scene.named _ _ abreast

/-- The main world is changed alike in both runs. -/
lemma mirrors_changeMain {f g : World → World} (alike : ∀ w, w.name = N.name →
      (f w).name = N.name ∧ g (w.renamed N.name') = (f w).renamed N.name') :
    Mirrors N (Twin N P) (Twin N P) Eq (changeMain f : Gen σ Atlas Unit) (changeMain g) :=
  mirrors_change fun twin => twin.changeMain alike

/-- The same star is changed alike in both runs. -/
lemma mirrors_modifyStar {Q : Slot → Prop} {f : StarSystem → StarSystem}
    (keeps : ∀ {a : Atlas}, a.Holds P → (a.modifyStar id f).Holds Q) :
    Mirrors N (Twin N P) (Twin N Q) Eq
      (change fun a => a.modifyStar id f : Gen σ Atlas Unit) (change fun a => a.modifyStar id f) := by
  exact mirrors_change fun {a b} twin => twin.modifyStar (keeps twin.held)

/-- Steps on the same star. -/
lemma Mirrors.onStar {x y : Gen σ StarSystem α}
    (h : Mirrors N (StarSystem.Twin P) (StarSystem.Twin P) T x y) (id : StarId) :
    Mirrors N (Twin N P) (Twin N P) T (Gen.onStar id x) (Gen.onStar id y) :=
  mirrors_star_bind fun _ held =>
    mirrors_onPart h (fun _ => ⟨rfl, held⟩) fun twin same => twin.setStar same id

/-- Steps on the body of a slot. -/
lemma mirrors_onHost (bodies : ∀ content : Slot, content ≠ .main → P content)
    {x y : Gen σ Host Unit}
    (h : ∀ isMain, Mirrors N (Host.Twin N isMain) (Host.Twin N isMain) Eq x y) (id : StarId)
    (i : Nat) : Mirrors N (Twin N P) (Twin N P) Eq (onHost id i x) (onHost id i y) := by
  refine mirrors_seen fun a b twin => ?_
  rcases twin.hosts bodies id i with ⟨bare, bare'⟩ | ⟨isMain, host, other, held, held', same, back⟩
  · rw [bare, bare']
    refine (mirrors_pure rfl).mono (fun seen => seen) ?_
    rintro _ _ ⟨rfl, rfl⟩
    exact twin
  · rw [held, held']
    refine mirrors_onPart (h isMain) (fun _ => same) ?_
    rintro _ _ after after' ⟨rfl, rfl⟩ twin
    exact back after after' twin

/-- The same star is added in both runs. -/
lemma echoes_add {s : StarSystem} (held : s.Holds P) :
    Echoes N (Twin N P) (add s : Gen σ Atlas StarId) := by
  refine mirrors_scene.bind fun a b twin => ?_
  obtain ⟨named, rfl, holds⟩ := twin
  refine (mirrors_change fun _ => ⟨named, rfl, fun t mem => ?_⟩).bind_eq fun _ => mirrors_pure rfl
  rcases List.mem_append.mp mem with mem | mem
  · exact holds t mem
  · exact List.mem_singleton.mp mem ▸ held

/-- A body that is not the main world is placed alike in both runs. -/
lemma echoes_place {body : Slot} {orbit : Int} (held : P (body.stamp orbit)) (own : body ≠ .main)
    (id : StarId) : Echoes N (Twin N P) (place id body orbit : Gen σ Atlas Unit) := by
  refine mirrors_attempt fun a b twin => (twin.answers_star id).bind fun s t same => ?_
  have named : b.main.name = N.name' := by
    rw [twin.eq]
    rfl
  rw [twin.named, named]
  exact (StarSystem.answers_place same held).bind fun s t same =>
    (twin.setStar same id).stamp orbit own

/-- The main world is placed by force alike in both runs, and what it displaces is the same. -/
lemma mirrors_forceMain (id : StarId) (orbit : Int) :
    Mirrors N (Twin N P) (Twin N Slot.Any) (fun v w => w = v ∧ P v)
      (force id .main orbit : Gen σ Atlas Slot) (force id .main orbit) := by
  have forced : ∀ a b : Atlas, a.Twin N P b → N.Answers (fun v w => w.1 = v.1 ∧ P v.1 ∧
      v.2.Twin N Slot.Any w.2) (a.force id .main orbit) (b.force id .main orbit) := by
    refine fun a b twin => (twin.answers_star id).bind fun s t same => ?_
    refine (StarSystem.answers_force same trivial fun _ _ => trivial).bind fun v w replaced => ?_
    obtain ⟨named, heq, -⟩ := (twin.mono fun _ _ => trivial).setStar replaced.2.2 id
    refine ⟨replaced.1, replaced.2.1, named, ?_, fun _ _ _ _ => trivial⟩
    rw [heq]
    rfl
  exact mirrors_scene.bind fun a b twin => (mirrors_ofExcept_of (forced a b twin)).bind
    fun v w same => (mirrors_change fun _ => same.2.2).bind_eq fun _ =>
      mirrors_pure ⟨same.1, same.2.1⟩

end Gen

end Starchart
