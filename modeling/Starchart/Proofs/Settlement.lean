import Starchart.Proofs.Digits
import Starchart.Proofs.Outcome
import Starchart.Settlement

/-!
# Settled worlds

Settling a world rolls five things; everything else about the settled world follows from these, the
world as it was and the main world.

## Main definitions

* `Starchart.Settlement.Draws` — the five things that are rolled.
* `Starchart.Settlement.Draws.Allowed` — what the rolls may come to.
* `Starchart.Settlement.settled` — the world that follows from them.
* `Starchart.World.charter` — the part of the main world that settling reads.
* `Starchart.World.Equipped`, `Starchart.World.Administered` — the rules that facilities and the rolled
  digits of a lesser world follow.

## Main results

* `Starchart.Settlement.gives_settle` — settling gives the world that follows from allowed draws.
* `Starchart.Settlement.inRange_settled` — its digits are in range.
* `Starchart.Settlement.equipped_settled`, `Starchart.Settlement.administered_settled` — it follows the
  rules.
* `Starchart.Settlement.settled_trade_iff` — when its trade classes are those of its digits.
-/

set_option autoImplicit false

namespace Starchart

/-- The part of the main world on which other bodies depend. -/
def World.charter (w : World) : World :=
  { name := "", profile := w.profile, facilities := w.facilities, trade := w.trade }

/-- The kinds of facilities that lesser worlds may have, in the order in which these are listed. -/
def Facility.lesser : List Facility := [.mining, .farming, .colony, .lab, .military]

/-- A world with facilities that suit it, the zones around its star and the main world.  Mines,
farms and colonies are there exactly where they are called for, and laboratories and military bases
only where the main world can afford them. -/
structure World.Equipped (w main : World) (zones : Zones) : Prop where
  listed : w.facilities.Sublist Facility.lesser
  apart : w.facilities.Nodup
  mining : .mining ∈ w.facilities ↔ .industrial ∈ main.trade ∧ 2 ≤ w.profile.population
  farming : .farming ∈ w.facilities ↔ w.position = zones.habitable ∧ zones.inner < w.position ∧
    4 ≤ w.profile.atmosphere ∧ w.profile.atmosphere ≤ 9 ∧ 4 ≤ w.profile.hydro ∧
    w.profile.hydro ≤ 8 ∧ 2 ≤ w.profile.population
  colony : .colony ∈ w.facilities ↔ w.profile.government = 6 ∧ 5 ≤ w.profile.population
  lab : .lab ∈ w.facilities → 0 < main.profile.population ∧ 8 < main.profile.tech ∧
    (w.profile.population = 0 → 10 ≤ main.profile.tech)
  military : .military ∈ w.facilities → .poor ∉ main.trade ∧ 0 < w.profile.population

/-- A world administered from a main world.  An empty one has neither government nor law nor tech,
and hardly a starport.  On a settled one the law is up to two levels below and three above that of
the main world; tech is that of the main world where there is a laboratory, and one level lower
elsewhere, but never too low to live with the atmosphere. -/
structure World.Administered (w main : World) : Prop where
  empty : w.profile.population = 0 → w.profile.government = 0 ∧ w.profile.law = 0 ∧
    w.profile.tech = 0 ∧ w.profile.port ∈ [Port.Y, .H]
  government : 0 < w.profile.population → w.profile.government ∈ [0, 1, 2, 3, 6]
  law : 0 < w.profile.population → max 0 (main.profile.law - 2) ≤ w.profile.law ∧
    w.profile.law ≤ min 15 (main.profile.law + 3)
  port : 0 < w.profile.population → w.profile.port ∈ [Port.Y, .H, .G, .F]
  techLab : 0 < w.profile.population → .lab ∈ w.facilities → w.profile.tech = main.profile.tech
  tech : 0 < w.profile.population → .lab ∉ w.facilities → w.profile.tech =
    if max 0 (main.profile.tech - 1) < 7 ∧ w.profile.atmosphere ∉ [5, 6, 8] then 7
    else max 0 (main.profile.tech - 1)

namespace Settlement

/-! ## Draws -/

/-- Everything that is rolled when a world is settled. Given these, the settled world follows
without dice, so that its laws are proved about a pure function. -/
structure Draws where
  government : Int
  law : Int
  port : Port
  lab : Bool
  military : Bool

/-- What the rolls for a world of the given population may come to, whatever the dice show. -/
structure Draws.Allowed (d : Draws) (population : Int) (main : World) : Prop where
  unpeopled : population ≤ 0 → d.government = 0 ∧ d.law = 0 ∧ (d.port = .Y ∨ d.port = .H)
  government : d.government = 0 ∨ d.government = 1 ∨ d.government = 2 ∨ d.government = 3 ∨
    d.government = 6
  law : 0 < population → min 15 (max 0 (main.profile.law - 2)) ≤ d.law ∧
    d.law ≤ min 15 (max 0 (main.profile.law + 3))
  port : d.port = .Y ∨ d.port = .H ∨ d.port = .G ∨ d.port = .F
  lab : d.lab = true → 0 < main.profile.population ∧ 8 < main.profile.tech ∧
    (population = 0 → 10 ≤ main.profile.tech)
  military : d.military = true → main.trade.contains .poor = false ∧ 0 < population

/-- The world with government, law, tech and starport filled in. -/
def governed (w main : World) (d : Draws) : World :=
  { w with
    profile := { w.profile with
      government := d.government
      law := d.law
      tech := techLevel w.profile.population w.profile.atmosphere main
      port := d.port }
    facilities := [] }

/-- The tech level of a world that may have a laboratory. -/
def equippedTech (tech : Int) (lab : Bool) (main : World) : Int :=
  if lab ∧ tech = main.profile.tech - 1 then main.profile.tech else tech

/-- The world with its facilities added. -/
def equipped (w : World) (zones : Zones) (main : World) (d : Draws) : World :=
  { w with
    profile := { w.profile with tech := equippedTech w.profile.tech d.lab main }
    facilities := w.facilities ++
      (if hasMine w main then [.mining] else []) ++
      (if hasFarm w zones then [.farming] else []) ++
      (if isColony w then [.colony] else []) ++
      (if d.lab then [.lab] else []) ++
      (if d.military then [.military] else []) }

/-- The settled world that follows from the draws. -/
def settled (w : World) (zones : Zones) (main : World) (d : Draws) : World :=
  equipped (governed w main d).classified zones main d

/-! ## Rolls -/

section Rolls

variable {σ : Type} [RandomSource σ]

/-- The governments that a roll may give. -/
lemma gives_rollGovernment (population : Int) (main : World) :
    (rollGovernment population main : Roll σ Int).Gives fun g =>
      (population ≤ 0 → g = 0) ∧ (g = 0 ∨ g = 1 ∨ g = 2 ∨ g = 3 ∨ g = 6) := by
  unfold rollGovernment
  split
  · exact Roll.gives_pure ⟨fun _ => rfl, .inl rfl⟩
  · rename_i peopled
    refine Roll.gives_d6.bind fun face hface => Roll.gives_pure ⟨fun h => absurd h peopled, ?_⟩
    generalize (face + if main.profile.government = 6 then population
      else if 7 ≤ main.profile.government then 1 else 0) = roll
    split_ifs <;> omega

/-- The law levels that a roll may give. -/
lemma gives_rollLaw (population : Int) (main : World) :
    (rollLaw population main : Roll σ Int).Gives fun law =>
      (population ≤ 0 → law = 0) ∧
      (0 < population → min 15 (max 0 (main.profile.law - 2)) ≤ law ∧
        law ≤ min 15 (max 0 (main.profile.law + 3))) := by
  unfold rollLaw
  split
  · exact Roll.gives_pure ⟨fun _ => rfl, fun h => by omega⟩
  · refine Roll.gives_d6.bind fun face hface => Roll.gives_pure ⟨fun h => by omega, fun _ => ?_⟩
    omega

/-- The starports that a roll may give. -/
lemma gives_rollPort (population : Int) :
    (rollPort population : Roll σ Port).Gives fun port =>
      (population ≤ 0 → port = .Y ∨ port = .H) ∧
      (port = .Y ∨ port = .H ∨ port = .G ∨ port = .F) := by
  refine Roll.gives_d6.bind fun face hface => Roll.gives_pure ?_
  by_cases empty : population ≤ 0
  · have low : face + -3 ≤ 2 ∨ face + -3 = 3 := by omega
    simp only [empty, if_true, true_implies]
    rcases low with low | low
    · simp [low]
    · simp [low]
  · refine ⟨fun h => absurd h empty, ?_⟩
    generalize (face + if population ≤ 0 then -3 else if population = 1 then -2
      else if population ≤ 5 then (0 : Int) else 2) = roll
    split_ifs <;> simp

/-- When a roll may give a laboratory. -/
lemma gives_rollLab (w main : World) :
    (rollLab w main : Roll σ Bool).Gives fun lab =>
      lab = true → 0 < main.profile.population ∧ 8 < main.profile.tech ∧
        (w.profile.population = 0 → 10 ≤ main.profile.tech) := by
  unfold rollLab
  split
  · rename_i able
    refine Roll.gives_twoD6.bind fun roll hroll => Roll.gives_pure fun high => ?_
    refine ⟨able.1, able.2, fun empty => ?_⟩
    -- two dice reach twelve at most, so an empty world cannot make up for its penalty
    simp only [empty, if_true, decide_eq_true_eq] at high
    split_ifs at high <;> omega
  · exact Roll.gives_pure fun h => absurd h Bool.false_ne_true

/-- When a roll may give a military base. -/
lemma gives_rollMilitary (w main : World) :
    (rollMilitary w main : Roll σ Bool).Gives fun military =>
      military = true → main.trade.contains .poor = false ∧ 0 < w.profile.population := by
  unfold rollMilitary
  split
  · rename_i able
    exact Roll.gives_twoD6.bind fun _ _ =>
      Roll.gives_pure fun _ => ⟨by simpa using able.1, able.2⟩
  · exact Roll.gives_pure fun h => absurd h Bool.false_ne_true

/-- Settling a world gives the one that follows from draws the rolls allow.

**Proof sketch.** Government, law and port are drawn first and determine the world as far as it is
governed; the draws for the laboratory and the base are added to them. Every draw is one that its
roll allows, and together they determine the world that results. -/
theorem gives_settle (w : World) (zones : Zones) (main : World) :
    (settle w zones main : Roll σ World).Gives fun after =>
      ∃ d : Draws, d.Allowed w.profile.population main ∧ after = settled w zones main d := by
  refine Roll.Gives.bind (P := fun after => ∃ d : Draws, d.Allowed w.profile.population main ∧
    after = governed w main d) ?_ ?_
  · refine (gives_rollGovernment _ _).bind fun government hgovernment => ?_
    refine (gives_rollLaw _ _).bind fun law hlaw => ?_
    refine (gives_rollPort _).bind fun port hport => Roll.gives_pure ?_
    refine ⟨⟨government, law, port, false, false⟩, ?_, rfl⟩
    exact {
      unpeopled := fun empty => ⟨hgovernment.1 empty, hlaw.1 empty, hport.1 empty⟩
      government := hgovernment.2
      law := hlaw.2
      port := hport.2
      lab := fun h => absurd h Bool.false_ne_true
      military := fun h => absurd h Bool.false_ne_true }
  · rintro _ ⟨d, allowed, rfl⟩
    refine (gives_rollLab _ _).bind fun lab hlab => ?_
    refine (gives_rollMilitary _ _).bind fun military hmilitary => Roll.gives_pure ?_
    exact ⟨{ d with lab := lab, military := military },
      { allowed with lab := hlab, military := hmilitary }, rfl⟩

end Rolls

/-! ## Digits -/

/-- A lesser population lies below that of the main world, unless there is nobody. -/
lemma clampPopulation_range (population : Int) (main : World) :
    0 ≤ clampPopulation population main ∧
      clampPopulation population main ≤ max 0 (main.profile.population - 1) := by
  unfold clampPopulation
  omega

/-- The tech level of a world whose main world has an ordinary one. -/
lemma techLevel_range (population atmosphere : Int) {main : World} (le : main.profile.tech ≤ 15) :
    0 ≤ techLevel population atmosphere main ∧ techLevel population atmosphere main ≤ 15 := by
  simp only [techLevel, hostileTech]
  split_ifs <;> omega

/-- The digits of a settled world are in range if those of the world and of the main world are.

**Proof sketch.** Size, atmosphere, water and population are not touched. The government is in range
by its draw; the law as well, or it is zero where nobody lives; and the tech level is clamped, or
that of the main world where there is a laboratory. -/
theorem inRange_settled {w main : World} (zones : Zones) {d : Draws} {least : Int}
    (allowed : d.Allowed w.profile.population main) (digits : w.profile.InRange least)
    (tech : 0 ≤ main.profile.tech ∧ main.profile.tech ≤ 15) :
    (settled w zones main d).profile.InRange least := by
  have level := techLevel_range w.profile.population w.profile.atmosphere tech.2
  have law : 0 ≤ d.law ∧ d.law ≤ 15 := by
    rcases Int.lt_or_le 0 w.profile.population with peopled | empty
    · have := allowed.law peopled
      omega
    · have := (allowed.unpeopled empty).2.1
      omega
  refine { digits with
    government := ?_
    law := law
    tech := ?_ }
  · have := allowed.government
    change 0 ≤ d.government ∧ d.government ≤ 15
    omega
  · change 0 ≤ equippedTech (techLevel _ _ main) d.lab main ∧
      equippedTech (techLevel _ _ main) d.lab main ≤ 15
    unfold equippedTech
    split_ifs
    · exact tech
    · exact level

/-- A settled place below an advanced main world is one level below it, whatever its atmosphere. -/
lemma techLevel_of_advanced {population : Int} (atmosphere : Int) {main : World}
    (advanced : 8 < main.profile.tech) (peopled : 0 < population) :
    techLevel population atmosphere main = main.profile.tech - 1 := by
  simp only [techLevel, hostileTech]
  split_ifs <;> omega

/-- An empty place has no tech. -/
lemma techLevel_of_empty {population : Int} (atmosphere : Int) (main : World)
    (empty : population ≤ 0) : techLevel population atmosphere main = 0 :=
  if_pos empty

/-- The laboratories of advanced main worlds lift settled places to the level of these, and leave
empty ones at zero. -/
lemma equippedTech_techLevel (population atmosphere : Int) {main : World} {lab : Bool}
    (able : lab = true → 8 < main.profile.tech) :
    equippedTech (techLevel population atmosphere main) lab main =
      if lab = true ∧ 0 < population then main.profile.tech
      else techLevel population atmosphere main := by
  unfold equippedTech
  rcases Int.lt_or_le 0 population with peopled | empty
  · refine if_congr (and_congr_right fun built => ?_) rfl rfl
    exact iff_of_true (techLevel_of_advanced atmosphere (able built) peopled) peopled
  · refine if_congr (and_congr_right fun built => ?_) rfl rfl
    have advanced := able built
    rw [techLevel_of_empty atmosphere main empty]
    exact iff_of_false (by omega) (by omega)

/-! ## Facilities -/

/-- Whether a settled world has a facility, as far as it is of a kind for lesser worlds. -/
def provides (w : World) (zones : Zones) (main : World) (d : Draws) : Facility → Bool
  | .mining => hasMine w main
  | .farming => hasFarm w zones
  | .colony => isColony w
  | .lab => d.lab
  | .military => d.military
  | _ => false

/-- The kinds that pass a check, one after the other. -/
lemma filter_lesser (check : Facility → Bool) : Facility.lesser.filter check =
    (if check .mining then [.mining] else []) ++ (if check .farming then [.farming] else []) ++
      (if check .colony then [.colony] else []) ++ (if check .lab then [.lab] else []) ++
      (if check .military then [.military] else []) := by
  simp only [Facility.lesser, List.filter_cons, List.filter_nil]
  split_ifs <;> rfl

variable {w main : World} {zones : Zones} {d : Draws}

/-- The facilities of a settled world are those of the kinds for lesser worlds that it provides.
What decides about them is the same before and after they are added. -/
lemma facilities_settled : (settled w zones main d).facilities =
    Facility.lesser.filter (provides (settled w zones main d) zones main d) := by
  rw [filter_lesser]
  rfl

/-- A settled world has a facility exactly if it provides one of that kind. -/
lemma mem_settled {kind : Facility} (lesser : kind ∈ Facility.lesser) :
    kind ∈ (settled w zones main d).facilities ↔
      provides (settled w zones main d) zones main d kind = true := by
  rw [facilities_settled, List.mem_filter]
  exact and_iff_right lesser

/-- A settled world has a laboratory exactly when one was rolled. -/
lemma lab_mem_settled : .lab ∈ (settled w zones main d).facilities ↔ d.lab = true :=
  mem_settled (by decide)

/-- The facilities of a settled world suit it.

**Proof sketch.** The facilities are those of the lesser kinds, in their order, that the world
provides; so the list is a part of theirs, and each condition is that for providing the facility. -/
theorem equipped_settled (allowed : d.Allowed w.profile.population main) :
    (settled w zones main d).Equipped main zones where
  listed := by
    rw [facilities_settled]
    exact List.filter_sublist
  apart := by
    rw [facilities_settled]
    exact List.filter_sublist.nodup (by decide)
  mining := by
    rw [mem_settled (by decide), provides, hasMine, Bool.and_eq_true, List.contains_iff_mem,
      decide_eq_true_iff]
  farming := by
    rw [mem_settled (by decide), provides, hasFarm, decide_eq_true_iff]
  colony := by
    rw [mem_settled (by decide), provides, isColony, decide_eq_true_iff]
  lab built := allowed.lab (lab_mem_settled.mp built)
  military built := by
    obtain ⟨affordable, peopled⟩ := allowed.military ((mem_settled (by decide)).mp built)
    refine ⟨fun poor => ?_, peopled⟩
    rw [List.contains_iff_mem.mpr poor] at affordable
    cases affordable

/-- The tech level of a settled world is that of the main world where people have a laboratory, and
the ordinary one elsewhere. -/
lemma tech_settled (zones : Zones) (allowed : d.Allowed w.profile.population main) :
    (settled w zones main d).profile.tech = if d.lab = true ∧ 0 < w.profile.population then
      main.profile.tech else techLevel w.profile.population w.profile.atmosphere main :=
  equippedTech_techLevel _ _ fun built => (allowed.lab built).2.1

/-- A settled world is administered from the main world.

**Proof sketch.** Government, law and starport are kept within their bounds by the rolls for them.
A main world with laboratories is so advanced that a settled place one level below it needs no more
to live with its atmosphere, so that the laboratory finds it there; and an empty place is left
alone. -/
theorem administered_settled (allowed : d.Allowed w.profile.population main)
    (law : 0 ≤ main.profile.law ∧ main.profile.law ≤ 15) :
    (settled w zones main d).Administered main where
  empty none := by
    have none : w.profile.population = 0 := none
    obtain ⟨government, lawless, port⟩ := allowed.unpeopled (Int.le_of_eq none)
    refine ⟨government, lawless, ?_, ?_⟩
    · rw [tech_settled zones allowed, if_neg (by omega), techLevel_of_empty _ _ (Int.le_of_eq none)]
    · change d.port ∈ _
      simpa using port
  government _ := by
    change d.government ∈ _
    simpa using allowed.government
  law peopled := by
    obtain ⟨low, high⟩ := allowed.law peopled
    change max 0 (main.profile.law - 2) ≤ d.law ∧ d.law ≤ min 15 (main.profile.law + 3)
    omega
  port _ := by
    change d.port ∈ _
    simpa using allowed.port
  techLab peopled built := by
    rw [tech_settled zones allowed, if_pos ⟨lab_mem_settled.mp built, peopled⟩]
  tech peopled unbuilt := by
    have peopled : 0 < w.profile.population := peopled
    rw [tech_settled zones allowed, if_neg fun lab => unbuilt (lab_mem_settled.mpr lab.1), techLevel,
      if_neg (by omega)]
    refine if_congr (and_comm.trans (and_congr_right fun _ => ?_)) rfl rfl
    change _ ↔ w.profile.atmosphere ∉ _
    simp [isBreathable, and_assoc]

/-! ## Trade classes -/

/-- From tech level eight on, one more level changes the trade classes only where it makes a world
high-tech.

**Proof sketch.** Two trade classes ask for the tech level: high-tech from twelve on, and low-tech
up to five. Beyond eight the second is out of the question, and the first changes at twelve only. -/
lemma tradeClasses_lift_iff (p : Profile) (mainWorld : Bool) {tech : Int} (high : 8 < tech) :
    ({ p with tech := tech - 1 } : Profile).tradeClasses mainWorld =
      ({ p with tech := tech } : Profile).tradeClasses mainWorld ↔ tech ≠ 12 := by
  constructor
  · rintro same rfl
    have after : TradeClass.highTech ∈ ({ p with tech := 12 } : Profile).tradeClasses mainWorld :=
      List.mem_filter.mpr ⟨by decide, rfl⟩
    rw [← same] at after
    have before := (List.mem_filter.mp after).2
    simp only [TradeClass.applies, decide_eq_true_eq] at before
    omega
  · intro other
    refine List.filter_congr fun c _ => ?_
    cases c with
    | highTech => exact decide_eq_decide.mpr (by dsimp only; omega)
    | lowTech => exact decide_eq_decide.mpr (by dsimp only; omega)
    | _ => rfl

/-- The trade classes of a settled world are those of its digits, unless its laboratory lifted it to
the level from which on a world is high-tech.

**Proof sketch.** The classes are read before facilities are rolled, and only a laboratory changes a
digit afterwards.  A laboratory takes a main world beyond tech level eight.  A settled place is then
one level below the main world and is lifted by one, which matters at level twelve alone; an empty
place has level zero and stays there. -/
theorem settled_trade_iff (allowed : d.Allowed w.profile.population main) :
    (settled w zones main d).trade =
        (settled w zones main d).profile.tradeClasses (settled w zones main d).isMain ↔
      ¬(.lab ∈ (settled w zones main d).facilities ∧ 0 < w.profile.population ∧
        main.profile.tech = 12) := by
  rw [lab_mem_settled]
  set p := (governed w main d).profile
  have digits : (settled w zones main d).profile =
      { p with tech := if d.lab = true ∧ 0 < w.profile.population then main.profile.tech
        else p.tech } :=
    congrArg (fun tech => ({ p with tech := tech } : Profile)) (tech_settled zones allowed)
  change p.tradeClasses w.isMain = (settled w zones main d).profile.tradeClasses w.isMain ↔ _
  rw [digits]
  by_cases lifted : d.lab = true ∧ 0 < w.profile.population
  · obtain ⟨built, peopled⟩ := lifted
    have advanced := (allowed.lab built).2.1
    have below : p.tech = main.profile.tech - 1 := techLevel_of_advanced _ advanced peopled
    have lift := tradeClasses_lift_iff p w.isMain advanced
    rw [← below] at lift
    rw [if_pos ⟨built, peopled⟩]
    exact lift.trans ⟨fun other all => other all.2.2, fun h twelve => h ⟨built, peopled, twelve⟩⟩
  · rw [if_neg lifted]
    exact ⟨fun _ all => lifted ⟨all.1, all.2.1⟩, fun _ => rfl⟩

end Settlement

end Starchart
