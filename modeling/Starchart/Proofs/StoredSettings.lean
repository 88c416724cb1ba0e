import Starchart.Proofs.FileObjects
import Starchart.Settings

/-!
# Stored settings

Settings are read off an object field by field, so a value of the wrong kind spoils no other field,
unless it is too deep to be complained about.  Settings that were saved are loaded as they were.  A
file cannot hold every text and every whole number, but it can hold whatever was loaded from one.

## Main definitions

* `Starchart.Settings.FieldWise` — settings that hold what counts under each key.
* `Starchart.Settings.Storable` — settings that a file can hold.
* `Starchart.Settings.File.ofString` — a file that holds a text.

## Main results

* `Starchart.Settings.fieldWise_iff` — an object is read field by field.
* `Starchart.Settings.load_save` — saved settings are loaded.
* `Starchart.Settings.storable_of_load` — what is loaded can be saved.
* `Starchart.Settings.exists_load`, `Starchart.Settings.load_eq_error` — which objects are loaded.
* `Starchart.Settings.load_restores` — all of this for objects, settings and files.
-/

set_option autoImplicit false

namespace Starchart

namespace Json

variable {v : Json}

/-- A Boolean is one. -/
lemma bool?_eq_some_iff (b : Bool) : v.bool? = some b ↔ v = .bool b := by
  cases v <;> simp [bool?]

/-- A whole number is one. -/
lemma int?_eq_some_iff (n : Int) : v.int? = some n ↔ v = .int n := by
  cases v <;> simp [int?]

/-- A text is one. -/
lemma text?_eq_some_iff (t : Text) : v.text? = some t ↔ v = .text t := by
  cases v <;> simp [text?]

/-- Small numbers have few digits. -/
lemma lt_pow_maxDigits {n : Nat} (small : n < 100) : n < 10 ^ maxDigits :=
  calc
    n < 10 ^ 2 := small
    _ ≤ 10 ^ maxDigits := Nat.pow_le_pow_right (by decide) (by decide)

end Json

/-- Strings that are spelled alike are the same. -/
lemma Text.ofString_injective : Function.Injective Text.ofString :=
  Function.LeftInverse.injective plain_ofString

/-- Fields whose keys are different strings have distinct keys. -/
lemma Json.keyed_of_nodup {fields : List (Text × Json)} (names : List String)
    (same : fields.map Prod.fst = names.map Text.ofString) (nodup : names.Nodup) :
    Json.Keyed fields := by
  rw [Json.Keyed, same]
  exact nodup.map Text.ofString_injective

namespace Settings

/-! ## Fields -/

/-- What counts of some fields under a key: the value of the given kind that stands there, and the
default if there is none.  What stands under other keys does not matter. -/
def Counts {α : Type} (kind : α → Json) (fields : List (Text × Json)) (key : String)
    (default counted : α) : Prop :=
  (Text.ofString key, kind counted) ∈ fields ∨
    (∀ value, (Text.ofString key, kind value) ∉ fields) ∧ counted = default

section Fields

variable {α : Type} {kind : Json → Option α} {wrap : α → Json} {fields : List (Text × Json)}
  {key : String} {default : α}

/-- The field under a key is what counts there. -/
lemma counts_field (inverse : ∀ {v : Json} a, kind v = some a ↔ v = wrap a)
    (keyed : Json.Keyed fields) : Counts wrap fields key default (field kind fields key default) := by
  unfold field
  cases found : (Json.field? fields key).bind kind with
  | some value =>
    obtain ⟨v, hv, known⟩ := Option.bind_eq_some_iff.mp found
    rw [inverse] at known
    subst known
    exact .inl ((Json.field?_eq_some_iff keyed).mp hv)
  | none =>
    refine .inr ⟨fun value mem => ?_, rfl⟩
    rw [(Json.field?_eq_some_iff keyed).mpr mem, Option.bind_some, (inverse value).mpr rfl] at found
    cases found

/-- Only one value counts. -/
lemma Counts.unique (keyed : Json.Keyed fields) (injective : Function.Injective wrap) {a b : α}
    (first : Counts wrap fields key default a) (second : Counts wrap fields key default b) :
    a = b := by
  rcases first with mem | ⟨none, rfl⟩ <;> rcases second with mem' | ⟨none', rfl⟩
  · exact injective (keyed.eq_of_mem mem mem')
  · exact absurd mem (none' a)
  · exact absurd mem' (none b)
  · rfl

end Fields

/-- Settings that hold for each key what counts of some fields under it. A field of the wrong kind
spoils its own key at most, never another one. -/
structure FieldWise (fields : List (Text × Json)) (s : Settings) : Prop where
  showEmpty : Counts .bool fields "show_empty_orbits" false s.showEmpty
  retryLimit : Counts .int fields "satellite_orbit_retry_limit" 64 s.retryLimit
  logLevel : Counts .text fields "log_level" "WARNING" s.logLevel
  name : Counts .text fields "default_name" "Main World" s.name
  profile : Counts .text fields "default_upp" "A788899-A" s.profile

/-- Settings are read field by field, and nothing else is. -/
lemma fieldWise_iff {fields : List (Text × Json)} (keyed : Json.Keyed fields) {s : Settings} :
    FieldWise fields s ↔ ofFields fields = s := by
  have read : FieldWise fields (ofFields fields) :=
    ⟨counts_field Json.bool?_eq_some_iff keyed, counts_field Json.int?_eq_some_iff keyed,
      counts_field Json.text?_eq_some_iff keyed, counts_field Json.text?_eq_some_iff keyed,
      counts_field Json.text?_eq_some_iff keyed⟩
  refine ⟨fun each => ?_, fun same => same ▸ read⟩
  have texts : Function.Injective Json.text := fun _ _ => Json.text.inj
  exact Settings.ext
    (read.showEmpty.unique keyed (fun _ _ => Json.bool.inj) each.showEmpty)
    (read.retryLimit.unique keyed (fun _ _ => Json.int.inj) each.retryLimit)
    (read.logLevel.unique keyed texts each.logLevel)
    (read.name.unique keyed texts each.name)
    (read.profile.unique keyed texts each.profile)

/-- The keys of settings are distinct. -/
lemma keyed_fields (s : Settings) : Json.Keyed s.fields :=
  Json.keyed_of_nodup keys rfl (by decide)

/-- The fields of settings are the fields of these settings. -/
lemma ofFields_fields (s : Settings) : ofFields s.fields = s := by
  refine (fieldWise_iff s.keyed_fields).mp ⟨.inl ?_, .inl ?_, .inl ?_, .inl ?_, .inl ?_⟩ <;>
    simp [fields]

/-! ## Storable settings -/

/-- Settings that a file can hold: the limit has a limited number of digits, and no text has two
halves of a pair side by side. -/
structure Storable (s : Settings) : Prop where
  retryLimit : s.retryLimit.natAbs < 10 ^ Json.maxDigits
  logLevel : s.logLevel.Joined
  name : s.name.Joined
  profile : s.profile.Joined

/-- Settings can be held by a file if their fields can. -/
lemma storable_iff (s : Settings) : s.Storable ↔ ∀ f ∈ s.fields, f.2.Storable := by
  constructor
  · rintro ⟨retryLimit, logLevel, name, profile⟩ f mem
    simp only [fields, List.mem_cons, List.not_mem_nil, or_false] at mem
    rcases mem with rfl | rfl | rfl | rfl | rfl
    exacts [trivial, retryLimit, logLevel, name, profile]
  · intro each
    exact ⟨each _ (.tail _ (.head _)), each _ (.tail _ (.tail _ (.head _))),
      each _ (.tail _ (.tail _ (.tail _ (.head _)))),
      each _ (.tail _ (.tail _ (.tail _ (.tail _ (.head _)))))⟩

/-- The defaults can be held by a file. -/
lemma storable_default : ({} : Settings).Storable where
  retryLimit := Json.lt_pow_maxDigits (by decide)
  logLevel := Text.joined_ofString _
  name := Text.joined_ofString _
  profile := Text.joined_ofString _

/-- What is read off fields that a file can hold can be held by a file. -/
lemma storable_ofFields {fields : List (Text × Json)} (keyed : Json.Keyed fields)
    (each : ∀ f ∈ fields, f.2.Storable) : (ofFields fields).Storable := by
  obtain ⟨-, retryLimit, logLevel, name, profile⟩ := (fieldWise_iff keyed).mpr rfl
  have counted : ∀ {α : Type} {kind : α → Json} {key : String} {default counted : α},
      Counts kind fields key default counted → (kind default).Storable → (kind counted).Storable := by
    rintro α kind key default counted (mem | ⟨-, rfl⟩) storable
    · exact each _ mem
    · exact storable
  exact ⟨counted retryLimit storable_default.retryLimit, counted logLevel storable_default.logLevel,
    counted name storable_default.name, counted profile storable_default.profile⟩

/-! ## Files -/

/-- A file that holds a text. -/
def File.ofString (text : String) : File := .bytes text.toUTF8

/-- It holds what is read from the text. -/
lemma File.read_ofString (room : Nat) (text : String) :
    (File.ofString text).read room = Json.read room text := by
  have decoded : String.fromUTF8? text.toUTF8 = some text := dif_pos text.isValidUTF8
  rw [File.ofString, File.read, decoded]

/-- Settings that a file can hold are read back as their fields. -/
lemma read_save {s : Settings} (storable : s.Storable) {room : Nat} (roomy : 0 < room) :
    Json.read room s.save = .ok (.object s.fields) := by
  refine Json.read_fileObject s.keyed_fields (fun f mem => ?_) roomy
  have fits := s.storable_iff.mp storable f mem
  simp only [fields, List.mem_cons, List.not_mem_nil, or_false] at mem
  rcases mem with rfl | rfl | rfl | rfl | rfl
  all_goals exact ⟨Text.joined_ofString _, trivial, fits⟩

/-! ## Complaints -/

section Complaints

variable {fields : List (Text × Json)} {room : Nat}

/-- Whether a value of the wrong kind is too deep for the complaint about it. -/
def Overdeep (room : Nat) (fields : List (Text × Json)) : Prop :=
  ∃ key ∈ keys, ∃ value, (Text.ofString key, value) ∈ fields ∧ hasKind key value = false ∧
    room < value.depth

/-- The complaint about a value is made unless it is too deep for one.

**Proof sketch.** The key occurs once at most, so that there is one value at most to look at. A
value that fits is complained about by no message, one that does not by a message that shows it,
which is there exactly if the value is not nested too deep. -/
lemma exists_complaint_iff (keyed : Json.Keyed fields) {key : String} :
    (∃ note, complaint? room fields key = .ok note) ↔ ∀ value, (Text.ofString key, value) ∈ fields →
      hasKind key value = false → value.depth ≤ room := by
  unfold complaint?
  split
  · rename_i absent
    refine iff_of_true ⟨_, rfl⟩ fun value mem => ?_
    rw [(Json.field?_eq_some_iff keyed).mpr mem] at absent
    cases absent
  · rename_i value found
    -- the key has one value, so it is this one that has to fit or to be shallow
    have only : ∀ value', (Text.ofString key, value') ∈ fields ↔ value' = value := fun value' => by
      rw [← Json.field?_eq_some_iff keyed, found, Option.some.injEq, eq_comm]
    simp only [only, forall_eq]
    cases fits : hasKind key value with
    | true => exact iff_of_true ⟨_, rfl⟩ nofun
    | false =>
      rw [Json.shownWithin]
      by_cases shallow : value.depth ≤ room
      · rw [if_pos shallow]
        exact iff_of_true ⟨_, rfl⟩ fun _ => shallow
      · rw [if_neg shallow]
        exact iff_of_false nofun fun h => shallow (h rfl)

/-- A complaint that fails does so because its value cannot be shown. -/
lemma eq_shown_of_complaint? {key : String} {limit : Json.Overrun}
    (h : complaint? room fields key = .error limit) : limit = .shown := by
  unfold complaint? at h
  split at h
  · cases h
  · rename_i value _
    split_ifs at h
    rw [Json.shownWithin] at h
    split_ifs at h <;> cases h
    rfl

/-- The complaints are made unless a value is too deep for one. -/
lemma exists_complaints_iff (keyed : Json.Keyed fields) :
    (∃ notes, complaints room fields = .ok notes) ↔ ¬Overdeep room fields := by
  have each : (∀ key ∈ keys, ∃ note, complaint? room fields key = .ok note) ↔
      ¬Overdeep room fields := by
    simp only [exists_complaint_iff keyed, Overdeep, not_exists, not_and, not_lt]
  rw [← each]
  constructor
  · rintro ⟨notes, all⟩ key mem
    obtain ⟨found, made, -⟩ := bind_eq_ok_iff.mp all
    obtain ⟨note, -, written⟩ := exists_of_mapM made mem
    exact ⟨note, written⟩
  · intro each
    obtain ⟨found, all⟩ := exists_mapM each
    exact ⟨_, by rw [complaints, all]; rfl⟩

/-- Otherwise they fail because a value cannot be shown. -/
lemma complaints_eq_error (keyed : Json.Keyed fields) (overdeep : Overdeep room fields) :
    complaints room fields = .error .shown := by
  have failed : ¬∃ notes, complaints room fields = .ok notes := fun made =>
    (exists_complaints_iff keyed).mp made overdeep
  cases found : keys.mapM (complaint? room fields) with
  | ok found' => exact absurd ⟨_, by rw [complaints, found]; rfl⟩ failed
  | error limit =>
    obtain ⟨key, -, broken⟩ := exists_error_of_mapM found
    rw [complaints, found, eq_shown_of_complaint? broken]
    rfl

/-- Nothing is complained about where every value is of the right kind. -/
lemma complaints_eq_nil (keyed : Json.Keyed fields) (room : Nat)
    (fits : ∀ key ∈ keys, ∀ value, (Text.ofString key, value) ∈ fields → hasKind key value = true) :
    complaints room fields = .ok [] := by
  have each : ∀ key ∈ keys, complaint? room fields key = .ok none := by
    intro key mem
    unfold complaint?
    split
    · rfl
    · rename_i value found
      rw [if_pos (fits key mem value ((Json.field?_eq_some_iff keyed).mp found))]
  have all : keys.mapM (complaint? room fields) = .ok (keys.map fun _ => none) := by
    rw [mapM_eq_ok_iff, List.forall₂_map_right_iff, List.forall₂_same]
    exact each
  rw [complaints, all]
  rfl

end Complaints

/-- Nothing is complained about where settings were saved. -/
lemma complaints_fields (room : Nat) (s : Settings) : complaints room s.fields = .ok [] := by
  refine complaints_eq_nil s.keyed_fields room fun key known value mem => ?_
  simp only [fields, List.mem_cons, List.not_mem_nil, or_false, Prod.mk.injEq,
    Text.ofString_injective.eq_iff] at mem
  rcases mem with ⟨rfl, rfl⟩ | ⟨rfl, rfl⟩ | ⟨rfl, rfl⟩ | ⟨rfl, rfl⟩ | ⟨rfl, rfl⟩ <;> rfl

/-! ## Loading -/

section Loading

variable {room : Json.Room} {path : String} {file : File} {fields : List (Text × Json)}

/-- A file that holds an object gives the settings of its fields, and the complaints about them. -/
lemma load_of_read (read : file.read room.reading = .ok (.object fields)) : load room path file =
    (complaints room.showing fields).map fun notes => (ofFields fields, notes) := by
  unfold load
  split
  · cases read
  · rw [read]
    dsimp only
    cases complaints room.showing fields <;> rfl

/-- The object that a file holds has distinct keys, and its values can be held by a file, as far as
texts and whole numbers go. -/
lemma keyed_of_file {levels : Nat} (read : file.read levels = .ok (.object fields)) :
    Json.Keyed fields ∧ ∀ f ∈ fields, f.2.Storable := by
  cases file with
  | missing => cases read
  | unreadable => cases read
  | bytes content =>
    rw [File.read] at read
    split at read
    · exact Json.keyed_of_read read
    · cases read

/-- Whatever a file holds, the settings that are loaded can be held by a file. -/
lemma storable_of_load {s : Settings} {notes : List String}
    (h : load room path file = .ok (s, notes)) : s.Storable := by
  unfold load at h
  split at h
  · cases h
    exact storable_default
  · split at h
    · rename_i fields read
      obtain ⟨notes', -, h⟩ := bind_eq_ok_iff.mp h
      cases h
      obtain ⟨keyed, each⟩ := keyed_of_file read
      exact storable_ofFields keyed each
    · cases h
      exact storable_default
    · cases h
      exact storable_default
    · cases h

/-- Settings that a file can hold are loaded from the file that holds them. -/
lemma load_save {s : Settings} (storable : s.Storable) (roomy : 0 < room.reading) (path : String) :
    load room path (.ofString s.save) = .ok (s, []) := by
  rw [load_of_read ((File.read_ofString _ _).trans (read_save storable roomy)), complaints_fields,
    ofFields_fields]
  rfl

/-- An object in a file is loaded unless a value is too deep for the complaint about it. -/
lemma exists_load (read : file.read room.reading = .ok (.object fields))
    (shallow : ¬Overdeep room.showing fields) :
    ∃ notes, load room path file = .ok (ofFields fields, notes) := by
  obtain ⟨keyed, -⟩ := keyed_of_file read
  obtain ⟨notes, made⟩ := (exists_complaints_iff keyed).mpr shallow
  refine ⟨notes, ?_⟩
  rw [load_of_read read, made]
  rfl

/-- Otherwise nothing of it is loaded. -/
lemma load_eq_error (read : file.read room.reading = .ok (.object fields))
    (overdeep : Overdeep room.showing fields) : load room path file = .error .shown := by
  obtain ⟨keyed, -⟩ := keyed_of_file read
  rw [load_of_read read, complaints_eq_error keyed overdeep]
  rfl

/-- **Loading settings.**  The settings of an object are read field by field: the value under a key
counts exactly if it is of the kind that the key takes, a Boolean being no whole number, and
otherwise the default does, whatever stands under the other keys.  They are loaded from a file that
holds the object, unless the complaint about one of the values would have to show a value that is
too deep.

So saved settings are loaded as they were, without complaints, wherever the file is read back as the
object that was saved.  That is the case for all settings whose retry limit has at most as many
digits as files may hold, and in whose texts no two halves of a pair stand side by side, and for no
others. Whatever was loaded is loaded again after it was saved.

**Proof sketch.** What is read from a file has texts and whole numbers that a file can hold, so all
settings that are loaded can be saved.  The two ways to lose something, a pair that is read as one
character and a number that is too long, are exactly those that reading rules out. -/
theorem load_restores (roomy : 0 < room.reading) (path : String) :
    (∀ fields s, Json.Keyed fields → (FieldWise fields s ↔ ofFields fields = s)) ∧
    (∀ file fields, file.read room.reading = .ok (.object fields) → Json.Keyed fields ∧
      (¬Overdeep room.showing fields →
        ∃ notes, load room path file = .ok (ofFields fields, notes)) ∧
      (Overdeep room.showing fields → load room path file = .error .shown)) ∧
    (∀ s : Settings,
      (Json.read room.reading s.save = .ok (.object s.fields) →
        load room path (.ofString s.save) = .ok (s, [])) ∧
      (Json.read room.reading s.save = .ok (.object s.fields) ↔ s.Storable)) ∧
    ∀ file s notes, load room path file = .ok (s, notes) →
      load room path (.ofString s.save) = .ok (s, []) := by
  have saved : ∀ s : Settings, Json.read room.reading s.save = .ok (.object s.fields) ↔
      s.Storable := fun s =>
    ⟨fun read => s.storable_iff.mpr (Json.keyed_of_read read).2, fun fits => read_save fits roomy⟩
  refine ⟨fun fields s keyed => fieldWise_iff keyed, fun file fields read => ?_,
    fun s => ⟨fun read => ?_, saved s⟩,
    fun file s notes loaded => load_save (storable_of_load loaded) roomy path⟩
  · exact ⟨(keyed_of_file read).1, exists_load read, load_eq_error read⟩
  · exact load_save ((saved s).mp read) roomy path

end Loading

/-! ## A file with misfits -/

/-- Fields of which only the name is of the right kind. -/
def mixedFields : List (Text × Json) :=
  [("log_level", .int 10), ("show_empty_orbits", .int 1),
    ("satellite_orbit_retry_limit", .bool true), ("default_name", .text "Regina")]

/-- Of these fields only the name counts, and it is saved and loaded.

**Proof sketch.** The keys are different, and every text and number in the fields can be held by a
file, so the file is read as these fields. No value is nested deeper than a message can show. The
settings that the fields come to can be stored in turn. -/
theorem load_restores_mixed : 0 < room.reading ∧ Json.Keyed mixedFields ∧
    FieldWise mixedFields { name := "Regina" } ∧
    (File.ofString (Json.fileObject mixedFields)).read room.reading = .ok (.object mixedFields) ∧
    (∃ notes, load room "settings" (.ofString (Json.fileObject mixedFields)) =
      .ok ({ name := "Regina" }, notes)) ∧
    Json.read room.reading (save { name := "Regina" }) =
      .ok (.object (fields { name := "Regina" })) ∧
    load room "settings" (.ofString (save { name := "Regina" })) = .ok ({ name := "Regina" }, []) := by
  have roomy : 0 < room.reading := by decide
  have keyed : Json.Keyed mixedFields :=
    Json.keyed_of_nodup ["log_level", "show_empty_orbits", "satellite_orbit_retry_limit",
      "default_name"] rfl (by decide)
  have each : ofFields mixedFields = { name := "Regina" } := rfl
  have mixed : (File.ofString (Json.fileObject mixedFields)).read room.reading =
      .ok (.object mixedFields) := by
    rw [File.read_ofString]
    refine Json.read_fileObject keyed (fun f mem => ?_) roomy
    simp only [mixedFields, List.mem_cons, List.not_mem_nil, or_false] at mem
    rcases mem with rfl | rfl | rfl | rfl
    · exact ⟨Text.joined_ofString _, trivial, Json.lt_pow_maxDigits (by decide)⟩
    · exact ⟨Text.joined_ofString _, trivial, Json.lt_pow_maxDigits (by decide)⟩
    · exact ⟨Text.joined_ofString _, trivial, trivial⟩
    · exact ⟨Text.joined_ofString _, trivial, Text.joined_ofString _⟩
  have shallow : ¬Overdeep room.showing mixedFields := by
    rintro ⟨key, -, value, mem, -, deep⟩
    simp only [mixedFields, List.mem_cons, List.not_mem_nil, or_false, Prod.mk.injEq] at mem
    rcases mem with ⟨-, rfl⟩ | ⟨-, rfl⟩ | ⟨-, rfl⟩ | ⟨-, rfl⟩ <;> exact absurd deep (by decide)
  have storable : Storable { name := "Regina" } :=
    { storable_default with name := Text.joined_ofString _ }
  obtain ⟨fieldWise, loaded, saved, again⟩ := load_restores roomy "settings"
  obtain ⟨-, listed, -⟩ := loaded _ _ mixed
  rw [each] at listed
  obtain ⟨notes, first⟩ := listed shallow
  exact ⟨roomy, keyed, (fieldWise _ _ keyed).mpr each, mixed, ⟨notes, first⟩,
    (saved _).2.mpr storable, again _ _ _ first⟩

/-! ## A file that is not loaded -/

/-- A field of the wrong kind, too deep for the complaint about it. -/
def overdeepFields : List (Text × Json) := [("default_name", Json.nested 985)]

/-- Its value does not count, but no defaults are loaded from a file that holds it: at the command
line there is room to read the file, and none to complain about the value. -/
theorem load_fails_overdeep :
    (File.ofString (Json.nestedText "default_name" 985)).read (room.within 1).reading =
      .ok (.object overdeepFields) ∧
    FieldWise overdeepFields {} ∧
    load (room.within 1) "settings" (.ofString (Json.nestedText "default_name" 985)) =
      .error .shown := by
  have keyed : Json.Keyed overdeepFields := Json.keyed_of_nodup ["default_name"] rfl (by decide)
  have read : (File.ofString (Json.nestedText "default_name" 985)).read (room.within 1).reading =
      .ok (.object overdeepFields) :=
    (File.read_ofString _ _).trans (Json.read_nestedText (Text.joined_ofString _) (by decide))
  have overdeep : Overdeep (room.within 1).showing overdeepFields := by
    refine ⟨"default_name", by decide, _, List.mem_cons_self, rfl, ?_⟩
    rw [Json.depth_nested]
    decide
  exact ⟨read, (fieldWise_iff keyed).mpr rfl, load_eq_error read overdeep⟩

end Settings

end Starchart
