import Starchart.Proofs.Deciding
import Starchart.Proofs.Steps

/-!
# Calls that decide slots

The slots of a star are decided by five kinds of calls: a body is placed or forced into a slot, an
orbit is marked to stay empty, the orbits near a companion are cleared, and a companion is attached.
Calls may follow each other in any order, on any orbits, and may be refused.

Whatever the calls are, a slot is decided once and only a forced body takes the place of another one;
what is in a slot carries its number, as long as no shared body is handed over twice; and a call that
fails changes nothing at all.

## Main definitions

* `Starchart.Call` — a call, with `Starchart.Call.perform` for what it does.
* `Starchart.Call.Reaches` — the orbits that a call may decide.
* `Starchart.Atlas.Ordered` — a star whose slots are in order.
* `Starchart.Call.Lawful` — what a call may do to the slots of a star.

## Main results

* `Starchart.Call.decides_of_ok` — a call decides slots that it reaches, with the body that it takes.
* `Starchart.Call.eq_of_error` — a call that fails changes nothing.
* `Starchart.Call.slots_after_calls` — a new star keeps its slots in order through any calls.
-/

set_option autoImplicit false

namespace Starchart

/-! ## Calls -/

/-- A call that decides slots of a star. -/
inductive Call where
  | place (body : Body) (orbit : Int)
  | force (body : Body) (orbit : Int)
  | markEmpty (orbit : Int)
  | clearNear (orbit : Int)
  | attach (companion : StarId) (orbit : Int)

/-- What a call answers. -/
inductive Call.Reply where
  | done
  | replaced (content : Slot)
  | marked (did : Bool)
  | seated (orbit : Int)

namespace Call

/-- The shared bodies that a call takes. -/
def shared : Call → List Body
  | place body _ | force body _ => body.shared
  | markEmpty _ | clearNear _ => []
  | attach companion _ => [.star companion]

/-- The orbits that a call may decide.  None of them is counted from the outermost one: a companion
on a negative orbit lies inside the star. -/
def Reaches (call : Call) (other : Int) : Prop :=
  match call with
  | place _ orbit | force _ orbit | markEmpty orbit => other = orbit
  | clearNear orbit => Orbit.IsNear orbit other
  | attach _ orbit => 0 < orbit ∧ (other = orbit ∨ Orbit.IsNear orbit other)

/-- The orbit that a call decides whatever it held. -/
def forced? : Call → Option Int
  | force _ orbit => some orbit
  | _ => none

section Performing

variable {σ : Type}

/-- What a call on a star does. -/
def perform (id : StarId) : Call → Gen σ Atlas Reply
  | place body orbit => do
    Gen.place id (← body.slot (← Gen.scene)) orbit
    return .done
  | force body orbit => do
    let previous ← Gen.force id (← body.slot (← Gen.scene)) orbit
    return .replaced previous
  | markEmpty orbit => do
    let (did, s) := (← Gen.star id).markEmpty orbit
    Gen.change fun a => a.setStar id s
    return .marked did
  | clearNear orbit => do
    Constellation.clearNear id orbit
    return .done
  | attach companion orbit => do
    let seated ← Constellation.attach id companion orbit
    return .seated seated

/-- The run as a call leaves it, be it that the call fails. -/
def leaves (id : StarId) (call : Call) (run : Run σ Atlas) : Run σ Atlas :=
  match call.perform id run with
  | .ok _ after => after
  | .error _ after => after

/-- The run as several calls leave it. -/
def leavesAll (id : StarId) (calls : List Call) (run : Run σ Atlas) : Run σ Atlas :=
  calls.foldl (fun run call => call.leaves id run) run

end Performing

end Call

/-! ## What a call does -/

namespace Gen

variable {σ ρ : Type} {α β : Type}

/-- The step ends from `run`, and it ends as `Q` tells. -/
def Succeeds (x : Gen σ ρ α) (run : Run σ ρ) (Q : α → Run σ ρ → Prop) : Prop :=
  ∃ a after, x run = .ok a after ∧ Q a after

variable {run : Run σ ρ}

/-- Two steps in a row. -/
lemma succeeds_bind {x : Gen σ ρ α} {f : α → Gen σ ρ β} {Q : β → Run σ ρ → Prop} :
    (x >>= f).Succeeds run Q ↔ x.Succeeds run fun a mid => (f a).Succeeds mid Q := by
  constructor
  · rintro ⟨b, after, ended, holds⟩
    obtain ⟨a, mid, first, second⟩ := exists_of_bind_ok ended
    exact ⟨a, mid, first, b, after, second, holds⟩
  · rintro ⟨a, mid, first, b, after, second, holds⟩
    refine ⟨b, after, ?_, holds⟩
    simp only [bind, EStateM.bind, first, second]

/-- A step that is known to end. -/
lemma succeeds_iff {x : Gen σ ρ α} {a : α} {after : Run σ ρ} {Q : α → Run σ ρ → Prop}
    (ended : x run = .ok a after) : x.Succeeds run Q ↔ Q a after := by
  constructor
  · rintro ⟨b, other, ended', holds⟩
    rw [ended] at ended'
    cases ended'
    exact holds
  · exact fun holds => ⟨a, after, ended, holds⟩

/-- Looking at the scene. -/
lemma succeeds_scene {Q : ρ → Run σ ρ → Prop} :
    (scene : Gen σ ρ ρ).Succeeds run Q ↔ Q run.scene run := succeeds_iff rfl

/-- Changing the scene. -/
lemma succeeds_change {f : ρ → ρ} {Q : Unit → Run σ ρ → Prop} :
    (change f : Gen σ ρ Unit).Succeeds run Q ↔ Q () { run with scene := f run.scene } :=
  succeeds_iff rfl

end Gen

namespace Call

variable {σ : Type} {id : StarId} {run : Run σ Atlas} {s : StarSystem}

/-- A call that places a body does what the chart does, or leaves the run as it is. -/
lemma perform_place (body : Body) (orbit : Int) : (place body orbit).perform id run =
    match body.slot run.scene >>= fun content => run.scene.place id content orbit with
    | .ok b => .ok .done { run with scene := b }
    | .error e => .error e run := by
  change ((liftM (body.slot run.scene) : Gen σ Atlas Slot) >>= fun content => do
    Gen.place id content orbit
    return Reply.done) run = _
  cases body.slot run.scene with
  | error e => rfl
  | ok content =>
    change (Gen.place id content orbit >>= fun _ => pure Reply.done : Gen σ Atlas Reply) run = _
    simp only [bind, EStateM.bind, Except.bind, Gen.place, Gen.attempt_apply]
    cases run.scene.place id content orbit <;> rfl

/-- So does one that forces it. -/
lemma perform_force (body : Body) (orbit : Int) : (force body orbit).perform id run =
    match body.slot run.scene >>= fun content => run.scene.force id content orbit with
    | .ok (previous, b) => .ok (.replaced previous) { run with scene := b }
    | .error e => .error e run := by
  change ((liftM (body.slot run.scene) : Gen σ Atlas Slot) >>= fun content => do
    let previous ← Gen.force id content orbit
    return Reply.replaced previous) run = _
  cases body.slot run.scene with
  | error e => rfl
  | ok content =>
    have forced : (Gen.force id content orbit : Gen σ Atlas Slot) run =
        match run.scene.force id content orbit with
        | .ok (previous, b) => .ok previous { run with scene := b }
        | .error e => .error e run := by
      change ((liftM (run.scene.force id content orbit) : Gen σ Atlas (Slot × Atlas)) >>=
        fun answer => do
          Gen.change fun _ => answer.2
          return answer.1) run = _
      cases run.scene.force id content orbit <;> rfl
    change (Gen.force id content orbit >>= fun previous => pure (Reply.replaced previous) :
      Gen σ Atlas Reply) run = _
    simp only [bind, EStateM.bind, Except.bind, forced]
    cases run.scene.force id content orbit <;> rfl

/-- A call that marks an orbit tells whether that was undecided. -/
lemma perform_markEmpty (found : run.scene.star? id = some s) (orbit : Int) :
    (markEmpty orbit).perform id run = .ok (.marked (s.isUndecided orbit))
      { run with scene := run.scene.setStar id (s.markEmpty orbit).2 } := by
  have answered := Atlas.star_eq found
  change ((liftM (run.scene.star id) : Gen σ Atlas StarSystem) >>= fun s => do
    Gen.change fun a => a.setStar id (s.markEmpty orbit).2
    return Reply.marked (s.markEmpty orbit).1) run = _
  have did : (s.markEmpty orbit).1 = s.isUndecided orbit := by
    unfold StarSystem.markEmpty
    split
    · rename_i free
      exact free.symm
    · rename_i decided
      exact (Bool.eq_false_iff.mpr decided).symm
  rw [answered, ← did]
  rfl

/-- A call that clears the orbits near a companion. -/
lemma perform_clearNear (found : run.scene.star? id = some s) (orbit : Int) :
    (clearNear orbit).perform id run = .ok .done
      { run with scene := run.scene.setStar id (s.clearNear orbit) } := by
  have cleared : run.scene.modifyStar id (fun s => s.clearNear orbit) =
      run.scene.setStar id (s.clearNear orbit) := Atlas.modifyStar_eq found _
  rw [← cleared]
  rfl

/-! ### Attaching a companion -/

/-- A companion that is neither on the contact orbit nor far has an orbit behind the first one. -/
lemma pos_of_isContactOrbit {orbit : Int} (valid : s.star.Classified)
    (outside : Constellation.isContactOrbit s orbit = .ok false) (near : orbit ≠ Orbit.far) :
    0 < orbit := by
  obtain ⟨zones, zoned⟩ := valid.exists_zones
  have inside := Constellation.inside_lt_of_isContactOrbit outside near zoned
  have := Star.neg_one_le_inside zoned
  have : orbit ≠ 0 := by
    rintro rfl
    cases outside
  omega

section Attaching

variable {a : Atlas} {mid : Run σ Atlas} {c t : StarSystem} {reach : Int → Prop} {taken : List Body}
  {forced : Option Int} {companion : StarId} {orbit : Int}

/-- The orbit of a companion is read off the chart at the end. -/
lemma succeeds_seated (known : companion < a.stars.length)
    (decides : a.Decides id reach taken forced mid.scene) :
    (do return (← Gen.star companion).orbit : Gen σ Atlas Int).Succeeds mid fun _ after =>
      a.Decides id reach taken forced after.scene := by
  obtain ⟨c, foundC⟩ := Atlas.exists_star_of_lt (decides.length.symm ▸ known)
  rw [Gen.succeeds_bind, Gen.succeeds_iff (Gen.star_ok foundC)]
  exact (Gen.succeeds_iff rfl).mpr decides

/-- A companion may move without taking a slot. -/
lemma decides_moved (mem : .star companion ∈ taken) (other : Int) :
    a.Decides id reach taken forced (a.modifyStar companion fun s => { s with orbit := other }) :=
  -- a slot names a star by its number, whatever else it tells of it
  Atlas.decides_stamp other (.star companion "" default) fun _ named =>
    List.mem_singleton.mp named ▸ mem

/-- A companion that moves is seated there. -/
lemma succeeds_moved (mem : .star companion ∈ taken) (known : companion < run.scene.stars.length)
    (other : Int) : (do
        Constellation.setOrbit companion other
        return (← Gen.star companion).orbit : Gen σ Atlas Int).Succeeds run fun _ after =>
      run.scene.Decides id reach taken forced after.scene := by
  rw [Gen.succeeds_bind, Constellation.setOrbit, Gen.succeeds_change]
  exact succeeds_seated known (decides_moved mem other)

/-- A companion may clear the orbits near it before. -/
lemma succeeds_cleared (known : companion < a.stars.length)
    (decides : a.Decides id reach taken forced mid.scene) (found : mid.scene.star? id = some t)
    (near : ∀ other, Orbit.IsNear orbit other → reach other) : (do
        Constellation.clearNear id orbit
        return (← Gen.star companion).orbit : Gen σ Atlas Int).Succeeds mid fun _ after =>
      a.Decides id reach taken forced after.scene := by
  rw [Gen.succeeds_bind, Constellation.clearNear, Gen.succeeds_change]
  refine succeeds_seated known ?_
  rw [Atlas.modifyStar_eq found]
  exact decides.clearNear found near

/-- A companion that moves to an orbit past the slots of its parent clears the orbits near it. -/
lemma succeeds_beyond (found : run.scene.star? id = some s) (mem : .star companion ∈ taken)
    (known : companion < run.scene.stars.length)
    (near : ∀ other, Orbit.IsNear orbit other → reach other) : (do
        Constellation.setOrbit companion orbit
        Constellation.clearNear id orbit
        return (← Gen.star companion).orbit : Gen σ Atlas Int).Succeeds run fun _ after =>
      run.scene.Decides id reach taken forced after.scene := by
  have moved : run.scene.Decides id reach taken forced _ := decides_moved mem orbit
  obtain ⟨t, foundT, -⟩ := moved.star found
  rw [Gen.succeeds_bind, Constellation.setOrbit, Gen.succeeds_change]
  exact succeeds_cleared known moved foundT near

/-- A companion on an undecided orbit takes that slot of its parent and clears the orbits near it.

**Proof sketch.** The slot is undecided, so placing the companion decides it and nothing else.
Clearing the orbits near it decides further slots, all of which may be reached. -/
lemma succeeds_placed (found : run.scene.star? id = some s) (free : s.isUndecided orbit = true)
    (known : companion < run.scene.stars.length) (reached : reach orbit)
    (near : ∀ other, Orbit.IsNear orbit other → reach other) : (do
        Gen.place id (← (← Gen.scene).starSlot companion) orbit
        Constellation.clearNear id orbit
        return (← Gen.star companion).orbit : Gen σ Atlas Int).Succeeds run fun _ after =>
      run.scene.Decides id reach [.star companion] forced after.scene := by
  obtain ⟨content, stands⟩ := Body.exists_slot (a := run.scene) (.star companion) fun k mem => by
    cases List.mem_singleton.mp mem
    exact known
  have named : run.scene.starSlot companion = .ok content := stands
  have placed := (Atlas.place_eq_ite found content orbit).trans (if_pos free)
  obtain ⟨i, rfl, held⟩ := StarSystem.held_of_isUndecided free
  have decides : run.scene.Decides id reach [.star companion] forced _ :=
    Atlas.decides_put found held stands (.inl rfl) reached
  obtain ⟨t, foundT, -⟩ := decides.star found
  rw [Gen.succeeds_bind, Gen.succeeds_scene, Gen.succeeds_bind,
    Gen.succeeds_iff (Gen.ofExcept_ok named), Gen.succeeds_bind, Gen.place,
    Gen.succeeds_iff (Gen.attempt_ok placed)]
  exact succeeds_cleared known decides foundT near

end Attaching

/-- Attaching a companion always succeeds, and decides slots of the parent that are reached.

**Proof sketch.** On the contact orbit, far out and on an orbit that is decided, the companion moves
and no slot changes.  On other orbits it takes a slot, if there is one, and clears the orbits near
it. -/
lemma succeeds_attach (found : run.scene.star? id = some s) (valid : s.star.Classified)
    {companion : StarId} (known : companion < run.scene.stars.length) (orbit : Int) :
    (Constellation.attach id companion orbit : Gen σ Atlas Int).Succeeds run fun _ after =>
      run.scene.Decides id (Reaches (.attach companion orbit)) [.star companion] none
        after.scene := by
  have mem : .star companion ∈ [Body.star companion] := List.mem_singleton.mpr rfl
  obtain ⟨contact, isContact⟩ := Constellation.exists_isContactOrbit valid orbit
  obtain ⟨c, foundC⟩ := Atlas.exists_star_of_lt known
  rw [Constellation.attach, Gen.succeeds_bind, Gen.succeeds_iff (Gen.star_ok found),
    Gen.succeeds_bind, Gen.succeeds_iff (Gen.ofExcept_ok isContact)]
  dsimp only
  split
  · exact succeeds_moved mem known _
  rename_i notInside
  split
  · exact succeeds_moved mem known _
  rename_i close
  have pos : 0 < orbit := by
    rw [Bool.eq_false_iff.mpr notInside] at isContact
    exact pos_of_isContactOrbit valid isContact close
  have near : ∀ other, Orbit.IsNear orbit other → Reaches (.attach companion orbit) other :=
    fun other near => ⟨pos, .inr near⟩
  split
  · exact succeeds_beyond found mem known near
  split
  · rename_i free
    exact succeeds_placed found free known ⟨pos, .inl rfl⟩ near
  · rw [Gen.succeeds_bind, Gen.succeeds_iff (Gen.star_ok foundC), Gen.succeeds_bind]
    exact (Gen.succeeds_iff rfl).mpr (succeeds_moved mem (by exact known) _)

/-- A call that attaches a companion tells where that is seated. -/
lemma exists_perform_attach (found : run.scene.star? id = some s) (valid : s.star.Classified)
    {companion : StarId} (known : companion < run.scene.stars.length) (orbit : Int) :
    ∃ seated after, (attach companion orbit).perform id run = .ok (.seated seated) after ∧
      run.scene.Decides id (Reaches (.attach companion orbit)) [.star companion] none
        after.scene := by
  obtain ⟨seated, after, attached, decides⟩ := succeeds_attach found valid known orbit
  refine ⟨seated, after, ?_, decides⟩
  simp only [perform, bind, EStateM.bind, attached]
  rfl

/-! ### Any call -/

section Outcomes

variable {call : Call} {reply : Reply} {after : Run σ Atlas} {fault : Fault}

/-- A call that succeeds decides slots that it reaches, with the body that it takes.

**Proof sketch.** By cases on the call. Placing and forcing succeed only where the slot exists, and
was undecided unless forced, and come down to putting the body there. Marking and clearing never put
a body anywhere. Attaching is known to end, with an attachment that decides what it reaches. -/
theorem decides_of_ok (found : run.scene.star? id = some s) (valid : s.star.Classified)
    (known : ∀ k, .star k ∈ call.shared → k < run.scene.stars.length)
    (ended : call.perform id run = .ok reply after) :
    run.scene.Decides id call.Reaches call.shared call.forced? after.scene := by
  cases call with
  | place body orbit =>
    rw [perform_place] at ended
    cases stands : body.slot run.scene with
    | error e => simp [stands, bind, Except.bind] at ended
    | ok content =>
      simp only [stands, bind, Except.bind, Atlas.place_eq_ite found] at ended
      by_cases free : s.isUndecided orbit = true
      · simp only [free, if_true] at ended
        cases ended
        obtain ⟨i, rfl, held⟩ := StarSystem.held_of_isUndecided free
        exact Atlas.decides_put found held stands (.inl rfl) rfl
      · simp [free] at ended
  | force body orbit =>
    rw [perform_force] at ended
    cases stands : body.slot run.scene with
    | error e => simp [stands, bind, Except.bind] at ended
    | ok content =>
      simp only [stands, bind, Except.bind, Atlas.force_eq_match found] at ended
      cases held : s.slotAt? orbit with
      | none => simp [held] at ended
      | some previous =>
        simp only [held] at ended
        cases ended
        obtain ⟨i, rfl, held'⟩ := StarSystem.held_of_slotAt? held
        exact Atlas.decides_put found held' stands (.inr rfl) rfl
  | markEmpty orbit =>
    rw [perform_markEmpty found] at ended
    cases ended
    exact (Atlas.decides_refl _).markEmpty found rfl
  | clearNear orbit =>
    rw [perform_clearNear found] at ended
    cases ended
    exact (Atlas.decides_refl _).clearNear found fun _ near => near
  | attach companion orbit =>
    have lt := known companion (List.mem_singleton.mpr rfl)
    obtain ⟨seated, after', ended', decides⟩ := exists_perform_attach found valid lt orbit
    rw [ended'] at ended
    cases ended
    exact decides

/-- A call that fails changes nothing.

**Proof sketch.** By cases on the call. Placing and forcing answer before they change anything;
marking, clearing and attaching do not fail at all. -/
theorem eq_of_error (found : run.scene.star? id = some s) (valid : s.star.Classified)
    (known : ∀ k, .star k ∈ call.shared → k < run.scene.stars.length)
    (ended : call.perform id run = .error fault after) : after = run := by
  cases call with
  | place body orbit =>
    rw [perform_place] at ended
    split at ended
    · cases ended
    · cases ended
      rfl
  | force body orbit =>
    rw [perform_force] at ended
    split at ended
    · cases ended
    · cases ended
      rfl
  | markEmpty orbit =>
    rw [perform_markEmpty found] at ended
    cases ended
  | clearNear orbit =>
    rw [perform_clearNear found] at ended
    cases ended
  | attach companion orbit =>
    have lt := known companion (List.mem_singleton.mpr rfl)
    obtain ⟨seated, after', ended', -⟩ := exists_perform_attach found valid lt orbit
    rw [ended'] at ended
    cases ended

/-- However a call ends, it decides slots that it reaches, with the body that it takes. -/
lemma decides_leaves (found : run.scene.star? id = some s) (valid : s.star.Classified)
    (known : ∀ k, .star k ∈ call.shared → k < run.scene.stars.length) :
    run.scene.Decides id call.Reaches call.shared call.forced? (call.leaves id run).scene := by
  unfold leaves
  split
  · rename_i ended
    exact decides_of_ok found valid known ended
  · rename_i ended
    rw [eq_of_error found valid known ended]
    exact Atlas.decides_refl _

end Outcomes

end Call

/-! ## Sequences of calls -/

/-- Star `id` of the chart has the given class and capacity, and as many slots as that says; what
was decided about a slot carries its number, and shared bodies in slots were taken before. -/
structure Atlas.Ordered (a : Atlas) (id : StarId) (star : Star) (capacity : Int)
    (taken : List Body) : Prop where
  exists_star : ∃ s, a.star? id = some s ∧ s.star = star ∧ s.maxOrbits = capacity ∧
    s.slots.length = capacity.toNat
  stored : ∀ {i : Nat} {content : Slot}, a.slot? id i = some content → content ≠ .undecided →
    a.storedOrbit? content = some (i : Int)
  taken : ∀ {i : Nat} {content : Slot}, a.slot? id i = some content →
    ∀ body ∈ content.shared, body ∈ taken

/-- The slots of a star stay in order when more are decided, with bodies that were not taken before.

**Proof sketch.** A slot either keeps its content or takes one of the bodies. In the first case the
number that is stored stays, as no body that had been taken is moved; in the second it is the number
of the slot. -/
lemma Atlas.Ordered.of_decides {a b : Atlas} {id : StarId} {star : Star} {capacity : Int}
    {taken bodies : List Body} {reach : Int → Prop} {forced : Option Int}
    (h : a.Ordered id star capacity taken) (decides : a.Decides id reach bodies forced b)
    (apart : ∀ body ∈ bodies, body ∉ taken) : b.Ordered id star capacity (taken ++ bodies) where
  exists_star := by
    obtain ⟨s, found, star_eq, maxOrbits, length⟩ := h.exists_star
    obtain ⟨t, found', star_eq', maxOrbits', length'⟩ := decides.star found
    exact ⟨t, found', star_eq'.trans star_eq, maxOrbits'.trans maxOrbits, length'.trans length⟩
  stored held decided := by
    rcases decides.slot held with before | ⟨-, -, -, stored⟩
    · rw [decides.stored fun body mem taken' => apart body taken' (h.taken before body mem)]
      exact h.stored before decided
    · exact stored
  taken held body mem := by
    rcases decides.slot held with before | ⟨-, -, taken', -⟩
    · exact List.mem_append_left _ (h.taken before body mem)
    · exact List.mem_append_right _ (taken' body mem)

/-- The slots of a new star are in order. -/
lemma Atlas.ordered_bare {a : Atlas} {id : StarId} {name : String} {star : Star}
    {orbit capacity : Int} (isNew : a.star? id = some (.bare name star orbit capacity)) :
    a.Ordered id star capacity [] where
  exists_star := ⟨_, isNew, rfl, rfl, StarSystem.length_bare name star orbit capacity⟩
  stored held decided := by
    rw [slot?_eq isNew] at held
    exact absurd (StarSystem.slots_bare held) decided
  taken held body mem := by
    rw [slot?_eq isNew] at held
    rw [StarSystem.slots_bare held] at mem
    cases mem

namespace Call

/-- What a call may do to the slots of a star, from a given run on: if it fails, it changes nothing;
what is decided stays, unless a body is forced into that very slot; a body can be placed exactly in
an undecided slot, and forced exactly into any slot; an orbit is marked exactly if an undecided slot
becomes empty; and a slot that changes is one whose number the call reaches. -/
structure Lawful {σ : Type} (id : StarId) (call : Call) (run : Run σ Atlas) : Prop where
  refused : ∀ {fault : Fault} {after : Run σ Atlas},
    call.perform id run = .error fault after → after = run
  decided : ∀ {i : Nat} {content : Slot}, run.scene.slot? id i = some content →
    content ≠ .undecided → (call.leaves id run).scene.slot? id i = some content ∨
      ∃ body, call = .force body i ∧ ∃ after, call.perform id run = .ok (.replaced content) after
  place_iff : ∀ {body : Body} {orbit : Int}, call = .place body orbit →
    ((∃ reply after, call.perform id run = .ok reply after) ↔
      ∃ i : Nat, orbit = i ∧ run.scene.slot? id i = some .undecided)
  force_iff : ∀ {body : Body} {orbit : Int}, call = .force body orbit →
    ((∃ reply after, call.perform id run = .ok reply after) ↔
      ∃ i content, orbit = (i : Nat) ∧ run.scene.slot? id i = some content)
  marked_iff : ∀ {orbit : Int}, call = .markEmpty orbit → ∃ did after,
    call.perform id run = .ok (.marked did) after ∧ (did = true ↔
      ∃ i : Nat, run.scene.slot? id i = some .undecided ∧
        after.scene.slot? id i = some (.empty i))
  reached : ∀ {i : Nat}, (call.leaves id run).scene.slot? id i ≠ run.scene.slot? id i →
    call.Reaches i

variable {σ : Type} {id : StarId} {run : Run σ Atlas} {s : StarSystem} {call : Call}

/-- A call that forces a body into a slot tells what the slot held. -/
lemma reply_of_force (found : run.scene.star? id = some s) {body : Body} {i : Nat} {content : Slot}
    (held : s.slots[i]? = some content) {reply : Reply} {after : Run σ Atlas}
    (ended : (force body i).perform id run = .ok reply after) : reply = .replaced content := by
  rw [perform_force] at ended
  cases stands : body.slot run.scene with
  | error e => simp [stands, bind, Except.bind] at ended
  | ok taken =>
    simp only [stands, bind, Except.bind, Atlas.force_eq_match found] at ended
    cases answered : s.slotAt? i with
    | none => simp [answered] at ended
    | some previous =>
      obtain ⟨j, same, held'⟩ := StarSystem.held_of_slotAt? answered
      obtain rfl : i = j := Int.ofNat.inj same
      obtain rfl := Option.eq_some_unique held held'
      simp only [answered] at ended
      cases ended
      rfl

/-- What is decided stays, unless a body is forced into that very slot.

**Proof sketch.** A call that fails changes nothing. One that succeeds decides slots, and a slot
that was decided before is the same afterwards unless it was forced; then the call was one that
forces a body, and what it answers is what the slot held. -/
lemma kept_or_forced (found : run.scene.star? id = some s) (valid : s.star.Classified)
    (known : ∀ k, .star k ∈ call.shared → k < run.scene.stars.length) {i : Nat} {content : Slot}
    (held : run.scene.slot? id i = some content) (decided : content ≠ .undecided) :
    (call.leaves id run).scene.slot? id i = some content ∨
      ∃ body, call = .force body i ∧
        ∃ after, call.perform id run = .ok (.replaced content) after := by
  cases ended : call.perform id run with
  | error fault after =>
    rw [leaves, ended]
    exact .inl (eq_of_error found valid known ended ▸ held)
  | ok reply after =>
    have decides := decides_of_ok found valid known ended
    rw [leaves, ended]
    obtain ⟨content', held'⟩ := decides.exists_slot held
    rcases decides.slot held' with same | ⟨free | forced, -⟩
    · exact .inl (held'.trans (same.symm.trans held))
    · exact absurd (Option.eq_some_unique held free) decided
    · cases call with
      | force body orbit =>
        obtain rfl : orbit = i := Option.some.inj forced
        rw [Atlas.slot?_eq found] at held
        obtain rfl := reply_of_force found held ended
        exact .inr ⟨body, rfl, after, rfl⟩
      | _ => cases forced

/-- A body can be placed exactly in an undecided slot. -/
lemma place_succeeds_iff (found : run.scene.star? id = some s)
    (fitted : s.slots.length = s.maxOrbits.toNat) {body : Body} {orbit : Int}
    (known : ∀ k, .star k ∈ body.shared → k < run.scene.stars.length) :
    (∃ reply after, (place body orbit).perform id run = .ok reply after) ↔
      ∃ i : Nat, orbit = i ∧ run.scene.slot? id i = some .undecided := by
  obtain ⟨content, stands⟩ := body.exists_slot known
  simp only [Atlas.slot?_eq found, ← StarSystem.isUndecided_iff fitted]
  rw [perform_place, stands]
  simp only [bind, Except.bind, Atlas.place_eq_ite found]
  by_cases free : s.isUndecided orbit = true <;> simp [free]

/-- It can be forced exactly into any slot.

**Proof sketch.** Forcing looks the slot up by its orbit and fails exactly where there is none.
Since a star has as many slots as its capacity says, that look-up finds what the chart holds
there. -/
lemma force_succeeds_iff (found : run.scene.star? id = some s)
    (fitted : s.slots.length = s.maxOrbits.toNat) {body : Body} {orbit : Int}
    (known : ∀ k, .star k ∈ body.shared → k < run.scene.stars.length) :
    (∃ reply after, (force body orbit).perform id run = .ok reply after) ↔
      ∃ i content, orbit = (i : Nat) ∧ run.scene.slot? id i = some content := by
  obtain ⟨content, stands⟩ := body.exists_slot known
  simp only [Atlas.slot?_eq found]
  rw [perform_force, stands]
  simp only [bind, Except.bind, Atlas.force_eq_match found]
  cases held : s.slotAt? orbit with
  | some previous =>
    obtain ⟨i, same, held'⟩ := StarSystem.held_of_slotAt? held
    exact ⟨fun _ => ⟨i, previous, same, held'⟩, fun _ => ⟨_, _, rfl⟩⟩
  | none =>
    constructor
    · rintro ⟨reply, after, ended⟩
      cases ended
    · rintro ⟨i, previous, rfl, held'⟩
      rw [StarSystem.slotAt?_natCast fitted, held'] at held
      cases held

/-- An orbit is told to be marked exactly if an undecided slot became empty.

**Proof sketch.** An orbit is marked exactly if it is undecided, and then its slot is the one that
became empty. If it is not marked, the chart is the same, and no slot is undecided and empty at
once. -/
lemma exists_perform_markEmpty (found : run.scene.star? id = some s) (orbit : Int) :
    ∃ did after, (markEmpty orbit).perform id run = .ok (.marked did) after ∧ (did = true ↔
      ∃ i : Nat, run.scene.slot? id i = some .undecided ∧
        after.scene.slot? id i = some (.empty i)) := by
  have held : ∀ (t : StarSystem) (i : Nat),
      (run.scene.setStar id t).slot? id i = t.slots[i]? := fun t =>
    Atlas.slot?_eq (Atlas.star?_setStar_self found t)
  refine ⟨_, _, perform_markEmpty found orbit, ?_⟩
  simp only [held, Atlas.slot?_eq found]
  unfold StarSystem.markEmpty
  split
  · rename_i free
    obtain ⟨i, rfl, before⟩ := StarSystem.held_of_isUndecided free
    have after : (s.setSlot i (.empty i)).slots[i]? = some (.empty i) :=
      List.getElem?_set_self (List.getElem?_eq_some_iff.mp before).1
    exact ⟨fun _ => ⟨i, before, after⟩, fun _ => free⟩
  · rename_i decided
    refine ⟨fun free => absurd free decided, ?_⟩
    rintro ⟨i, before, after⟩
    cases Option.eq_some_unique before after

/-- Calls are lawful on a star with as many slots as its capacity says.

**Proof sketch.** A call that fails changes nothing, and one that succeeds decides slots that it
reaches; only the one that was forced may have been decided before. -/
theorem lawful (found : run.scene.star? id = some s) (valid : s.star.Classified)
    (fitted : s.slots.length = s.maxOrbits.toNat)
    (known : ∀ k, .star k ∈ call.shared → k < run.scene.stars.length) : call.Lawful id run where
  refused ended := eq_of_error found valid known ended
  decided held decided := kept_or_forced found valid known held decided
  place_iff same := by
    subst same
    exact place_succeeds_iff found fitted known
  force_iff same := by
    subst same
    exact force_succeeds_iff found fitted known
  marked_iff same := by
    subst same
    exact exists_perform_markEmpty found _
  reached changed := (decides_leaves found valid known).reached changed

/-- The slots of a star stay in order through calls that take each shared body once, whether or not
they fail.

**Proof sketch.** By induction on the calls.  A body that is taken does not stand in a slot yet, so
that nothing which stands there moves. -/
theorem ordered_leavesAll {star : Star} {capacity : Int} {taken : List Body} {calls : List Call}
    (ordered : run.scene.Ordered id star capacity taken) (valid : star.Classified)
    (known : ∀ k, .star k ∈ calls.flatMap shared → k < run.scene.stars.length)
    (once : (taken ++ calls.flatMap shared).Nodup) :
    (leavesAll id calls run).scene.Ordered id star capacity (taken ++ calls.flatMap shared) ∧
      (leavesAll id calls run).scene.stars.length = run.scene.stars.length := by
  induction calls generalizing run taken with
  | nil =>
    rw [List.flatMap_nil, List.append_nil]
    exact ⟨ordered, rfl⟩
  | cons call rest ih =>
    rw [List.flatMap_cons] at known once ⊢
    rw [← List.append_assoc] at once ⊢
    obtain ⟨s, found, rfl, -⟩ := ordered.exists_star
    have decides := decides_leaves found valid fun k mem => known k (List.mem_append_left _ mem)
    have apart : ∀ body ∈ call.shared, body ∉ taken := fun body mem mem' =>
      (List.nodup_append.mp once).1 |> List.nodup_append.mp |>.2.2 body mem' body mem rfl
    obtain ⟨later, length⟩ := ih (ordered.of_decides decides apart)
      (fun k mem => decides.length.symm ▸ known k (List.mem_append_right _ mem)) once
    exact ⟨later, length.trans decides.length⟩

/-- **Slots stay in order.**  Whatever calls decide slots of a new star, of any capacity and on any
orbits, as long as no shared body is taken twice: the star keeps as many slots as its capacity says;
what was decided about a slot carries the number of the slot; and each of the calls is lawful, so
that one that fails changes nothing, only a forced body takes the place of another, exactly
undecided slots can be taken, and no negative orbit is counted from the outermost slot. -/
theorem slots_after_calls {name : String} {star : Star} {orbit capacity : Int} {calls : List Call}
    (isNew : run.scene.star? id = some (.bare name star orbit capacity)) (valid : star.Classified)
    (known : ∀ k, .star k ∈ calls.flatMap shared → k < run.scene.stars.length)
    (once : (calls.flatMap shared).Nodup) :
    (∃ s, (leavesAll id calls run).scene.star? id = some s ∧
      (s.slots.length : Int) = max 0 capacity ∧
      ∀ (i : Nat) (content : Slot), s.slots[i]? = some content → content ≠ .undecided →
        (leavesAll id calls run).scene.storedOrbit? content = some (i : Int)) ∧
    ∀ before call rest, calls = before ++ call :: rest →
      call.Lawful id (leavesAll id before run) := by
  have start := Atlas.ordered_bare isNew
  constructor
  · obtain ⟨ordered, -⟩ := ordered_leavesAll start valid known once
    obtain ⟨s, found, -, -, length⟩ := ordered.exists_star
    refine ⟨s, found, by omega, fun i content held decided => ?_⟩
    exact ordered.stored ((Atlas.slot?_eq found i).trans held) decided
  · rintro before call rest rfl
    rw [List.flatMap_append, List.flatMap_cons] at known once
    obtain ⟨ordered, length⟩ := ordered_leavesAll start valid
      (fun k mem => known k (List.mem_append_left _ mem)) (List.nodup_append.mp once).1
    obtain ⟨s, found, rfl, rfl, fitted⟩ := ordered.exists_star
    refine lawful found valid fitted fun k mem => length.symm ▸ known k ?_
    exact List.mem_append_right _ (List.mem_append_left _ mem)

/-- Calls on the first star of this chart keep its slots in order: its main world is placed and
displaced by force, its companion is attached, and no orbit is marked below zero. -/
theorem slots_after_calls_regina :
    let run : Run Congruential Atlas := ⟨⟨⟨1⟩, []⟩, [], ⟨[.bare "Regina" ⟨.G, 2, .V⟩ Orbit.primary 8,
      .bare "Asterope" ⟨.M, 3, .V⟩ Orbit.contact 2], .regina⟩⟩
    let calls : List Call := [place .main 3, attach 1 5, force (.own (.world .regina)) 3,
      markEmpty (-1), clearNear 0]
    (∃ s, (leavesAll 0 calls run).scene.star? 0 = some s ∧ (s.slots.length : Int) = max 0 8 ∧
      ∀ (i : Nat) (content : Slot), s.slots[i]? = some content → content ≠ .undecided →
        (leavesAll 0 calls run).scene.storedOrbit? content = some (i : Int)) ∧
    ∀ before call rest, calls = before ++ call :: rest →
      call.Lawful 0 (leavesAll 0 before run) := by
  intro run calls
  have isNew : run.scene.star? 0 = some (.bare "Regina" ⟨.G, 2, .V⟩ Orbit.primary 8) := rfl
  have shares : calls.flatMap shared = [.main, .star 1] := rfl
  refine slots_after_calls isNew ⟨by decide, by decide⟩ (fun k mem => ?_) ?_
  · obtain rfl : k = 1 := by simpa [shares] using mem
    decide
  · simp [shares]

end Call

end Starchart
