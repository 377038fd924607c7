import Custode.Found.Json
import Mathlib.Data.List.Nodup
import Mathlib.Logic.Function.Basic

/-!
# Derived deserializers over JSON

What `#[derive(Deserialize)]` makes of a JSON value.

* Scalars: strings, unsigned numbers in a range, optional values.
* `readUnitVariant` — an externally tagged enum whose variants carry nothing: the name of a variant
  as a string, or as the only key of an object with the value `null`.
* `StructVisitor` — a struct with `deny_unknown_fields`, from an object (`visitMap`) or from an
  array of its fields in order (`visitSeq`). `visitMap_ok` says what an accepted object is.
* `readTagged` — an internally tagged enum: the tag from an object or from the head of an array, and
  the rest. A variant without fields ignores the rest of an object (`readUnit`).
-/

namespace Custode.Found

open Text

/-- Why a value was not read. -/
inductive ReadError (ε : Type) where
  /-- A value of another kind than expected. -/
  | invalidType (expected : String)
  /-- A number outside the range of its type. -/
  | outOfRange
  /-- An array with too few elements. -/
  | invalidLength (length : Nat)
  /-- More elements or entries than are read. -/
  | trailing
  | missingField (name : Text)
  | duplicateField (name : Text)
  | unknownField (name : Text)
  | unknownVariant (name : Text)
  /-- An error of a field's own deserializer. -/
  | custom (error : ε)

/-- A deserializer. -/
abbrev Reader (ε α : Type) := Json → Except (ReadError ε) α

namespace Serde

variable {ε α : Type}

/-! ## Scalars and plain enums -/

/-- Reads a string. -/
def readString : Reader ε Text
  | .string value => .ok value
  | _ => .error (.invalidType "a string")

/-- Reads an unsigned number. A literal with a sign, a fraction or an exponent is none. -/
def readUnsigned (max : Nat) : Reader ε Nat
  | .number (.natural n) => if n ≤ max then .ok n else .error .outOfRange
  | _ => .error (.invalidType "an unsigned integer")

/-- Reads `null` or a value. -/
def readOption (read : Reader ε α) : Reader ε (Option α)
  | .null => .ok none
  | json => (read json).map some

/-- Reads the name of a variant. -/
def readVariant (ofName : Text → Option α) (name : Text) : Except (ReadError ε) α :=
  match ofName name with
  | some variant => .ok variant
  | none => .error (.unknownVariant name)

/-- Reads a variant that carries nothing. -/
def readUnitVariant (ofName : Text → Option α) : Reader ε α
  | .string name => readVariant ofName name
  | .object [(name, .null)] => readVariant ofName name
  | .object [(name, _)] => do
      let _ ← readVariant ofName name
      .error (.invalidType "unit")
  | _ => .error (.invalidType "a variant")

/-! ### What an accepted scalar is -/

/-- A string that is read is a JSON string. -/
lemma readString_ok {json : Json} {value : Text} (h : readString (ε := ε) json = .ok value) :
    json = .string value := by
  unfold readString at h
  split at h
  · cases h
    rfl
  · cases h

/-- A number that is read is a natural one within the bound. -/
lemma readUnsigned_ok {max n : Nat} {json : Json} (h : readUnsigned (ε := ε) max json = .ok n) :
    json = .number (.natural n) ∧ n ≤ max := by
  unfold readUnsigned at h
  split at h
  · split_ifs at h with hmax
    cases h
    exact ⟨rfl, hmax⟩
  · cases h

/-- An option that is read is `null` or a value that is read. -/
lemma readOption_ok {read : Reader ε α} {json : Json} {value : Option α}
    (h : readOption read json = .ok value) :
    json = .null ∧ value = none ∨ ∃ a, value = some a ∧ read json = .ok a := by
  unfold readOption at h
  split at h
  · cases h
    exact .inl ⟨rfl, rfl⟩
  · rcases hread : read json with error | a
    · rw [hread] at h
      cases h
    · rw [hread] at h
      cases h
      exact .inr ⟨a, rfl, rfl⟩

/-- A variant that is read is one with that name. -/
lemma readVariant_ok {ofName : Text → Option α} {name : Text} {variant : α}
    (h : readVariant (ε := ε) ofName name = .ok variant) : ofName name = some variant := by
  unfold readVariant at h
  split at h
  · rename_i hname
    cases h
    exact hname
  · cases h

/-- A plain variant is its name, or the object with its name and `null`. -/
lemma readUnitVariant_ok {ofName : Text → Option α} {json : Json} {variant : α}
    (h : readUnitVariant (ε := ε) ofName json = .ok variant) :
    ∃ name, ofName name = some variant ∧
      (json = .string name ∨ json = .object [(name, .null)]) := by
  unfold readUnitVariant at h
  split at h
  · rename_i name
    exact ⟨name, readVariant_ok h, .inl rfl⟩
  · rename_i name
    exact ⟨name, readVariant_ok h, .inr rfl⟩
  · rename_i name value hvalue
    cases hname : readVariant (ε := ε) ofName name with
    | error error =>
        rw [hname] at h
        cases h
    | ok variant =>
        rw [hname] at h
        cases h
  · cases h

/-! ## Structs -/

/-- The fields of a struct that denies unknown ones. -/
structure StructVisitor (ε : Type) {F : Type} (Value : F → Type) where
  /-- The fields in declaration order. -/
  fields : List F
  complete : ∀ f, f ∈ fields
  /-- The key of a field. -/
  name : F → Text
  distinct : (fields.map name).Nodup
  /-- Reads the value of a field. -/
  read : (f : F) → Reader ε (Value f)
  /-- What a field without an entry is, if it may be missing. -/
  missing : (f : F) → Option (Value f)

namespace StructVisitor

variable {F : Type} [DecidableEq F] {Value : F → Type} (V : StructVisitor ε Value)

omit [DecidableEq F] in
/-- A key is of one field. -/
lemma injective : Function.Injective V.name :=
  fun f g h => List.inj_on_of_nodup_map V.distinct (V.complete f) (V.complete g) h

/-- The fields read so far. -/
abbrev Slots (Value : F → Type) := (f : F) → Option (Value f)

/-- Reads one more entry of an object. -/
def entry (slots : Slots Value) (entry : Text × Json) : Except (ReadError ε) (Slots Value) :=
  match V.fields.find? fun f => decide (V.name f = entry.1) with
  | none => .error (.unknownField entry.1)
  | some f =>
      if (slots f).isSome then .error (.duplicateField entry.1)
      else
        match V.read f entry.2 with
        | .error error => .error error
        | .ok value => .ok (Function.update slots f (some value))

/-- Reads the entries of an object. -/
def entries : List (Text × Json) → Slots Value → Except (ReadError ε) (Slots Value)
  | [], slots => .ok slots
  | next :: rest, slots =>
      match V.entry slots next with
      | .error error => .error error
      | .ok slots => entries rest slots

/-- Reads the elements of an array, one for each field. -/
def elements : List F → List Json → Nat → Slots Value → Except (ReadError ε) (Slots Value)
  | [], [], _, slots => .ok slots
  | [], _ :: _, _, _ => .error .trailing
  | _ :: _, [], index, _ => .error (.invalidLength index)
  | f :: fields, item :: items, index, slots =>
      match V.read f item with
      | .error error => .error error
      | .ok value => elements fields items (index + 1) (Function.update slots f (some value))

/-- The value of a field, or what it is without an entry. -/
def value (slots : Slots Value) (f : F) : Option (Value f) := (slots f).or (V.missing f)

omit [DecidableEq F] in
/-- When no field is missing, every field has a value. -/
lemma isSome_value {slots : Slots Value}
    (h : (V.fields.find? fun f => (V.value slots f).isNone) = none) (f : F) :
    (V.value slots f).isSome := by
  have hf := List.find?_eq_none.mp h f (V.complete f)
  simpa [Option.isSome_iff_ne_none] using hf

/-- The struct, once all fields are there. -/
def finish (slots : Slots Value) : Except (ReadError ε) ((f : F) → Value f) :=
  match h : V.fields.find? fun f => (V.value slots f).isNone with
  | some f => .error (.missingField (V.name f))
  | none => .ok fun f => (V.value slots f).get (V.isSome_value h f)

/-- Reads the struct from an object. -/
def visitMap (object : List (Text × Json)) : Except (ReadError ε) ((f : F) → Value f) :=
  V.entries object (fun _ => none) >>= V.finish

/-- Reads the struct from an array. -/
def visitSeq (items : List Json) : Except (ReadError ε) ((f : F) → Value f) :=
  V.elements V.fields items 0 (fun _ => none) >>= V.finish

/-- Reads the struct. -/
def visit : Reader ε ((f : F) → Value f)
  | .object object => V.visitMap object
  | .array items => V.visitSeq items
  | _ => .error (.invalidType "a struct")

/-! ### What an accepted object is -/

/-- What the entries of an object say about a struct. -/
structure Describes (object : List (Text × Json)) (record : (f : F) → Value f) : Prop where
  /-- Every key is the key of a field. -/
  known : ∀ key ∈ object.map Prod.fst, ∃ f, V.name f = key
  /-- No key stands twice. -/
  nodup : (object.map Prod.fst).Nodup
  /-- The value of a field is read from its entry. -/
  present : ∀ f json, (V.name f, json) ∈ object → V.read f json = .ok (record f)
  /-- A field without an entry may be missing. -/
  absent : ∀ f, V.name f ∉ object.map Prod.fst → V.missing f = some (record f)

variable {V} in
omit [DecidableEq F] in
/-- A field that may not be missing has an entry. -/
lemma Describes.exists_entry {object : List (Text × Json)} {record : (f : F) → Value f}
    (h : V.Describes object record) {f : F} (hmissing : V.missing f = none) :
    ∃ json, (V.name f, json) ∈ object ∧ V.read f json = .ok (record f) := by
  by_cases hkey : V.name f ∈ object.map Prod.fst
  · obtain ⟨⟨key, json⟩, hentry, hname⟩ := List.mem_map.mp hkey
    obtain rfl : key = V.name f := hname
    exact ⟨json, hentry, h.present f json hentry⟩
  · have habsent := h.absent f hkey
    rw [hmissing] at habsent
    cases habsent

/-- What the entries read so far say about the slots. -/
structure Fills (object : List (Text × Json)) (slots : Slots Value) : Prop where
  known : ∀ key ∈ object.map Prod.fst, ∃ f, V.name f = key
  nodup : (object.map Prod.fst).Nodup
  present : ∀ f json, (V.name f, json) ∈ object →
    ∃ value, slots f = some value ∧ V.read f json = .ok value
  absent : ∀ f, V.name f ∉ object.map Prod.fst → slots f = none

variable {V}

/-- One more entry fills one more slot. -/
lemma Fills.entry {object : List (Text × Json)} {slots slots' : Slots Value} {next : Text × Json}
    (h : V.Fills object slots) (hentry : V.entry slots next = .ok slots') :
    V.Fills (object ++ [next]) slots' := by
  obtain ⟨key, json⟩ := next
  unfold StructVisitor.entry at hentry
  split at hentry
  · cases hentry
  · rename_i f hfind
    have hname : V.name f = key := by simpa using List.find?_some hfind
    split at hentry
    · cases hentry
    · rename_i hslot
      have hnew : V.name f ∉ object.map Prod.fst := by
        intro hmem
        obtain ⟨⟨key', json'⟩, hentry', hkey⟩ := List.mem_map.mp hmem
        obtain rfl : key' = V.name f := hkey
        obtain ⟨value, hvalue, -⟩ := h.present f json' hentry'
        rw [hvalue] at hslot
        exact hslot rfl
      rcases hread : V.read f json with error | value
      · rw [hread] at hentry
        cases hentry
      · rw [hread] at hentry
        cases hentry
        constructor
        · rw [List.map_append]
          intro key' hkey'
          rcases List.mem_append.mp hkey' with hkey' | hkey'
          · exact h.known key' hkey'
          · rw [List.mem_singleton.mp hkey']
            exact ⟨f, hname⟩
        · rw [List.map_append, List.nodup_append]
          refine ⟨h.nodup, by simp, ?_⟩
          rintro a ha b hb rfl
          obtain rfl : a = key := List.mem_singleton.mp hb
          exact hnew (hname ▸ ha)
        · intro g json' hmem
          rcases List.mem_append.mp hmem with hmem | hmem
          · have hne : g ≠ f := by
              rintro rfl
              exact hnew (List.mem_map_of_mem hmem)
            rw [Function.update_of_ne hne]
            exact h.present g json' hmem
          · obtain ⟨hkey, rfl⟩ := Prod.mk.inj (List.mem_singleton.mp hmem)
            obtain rfl : g = f := V.injective (hkey.trans hname.symm)
            exact ⟨value, Function.update_self _ _ _, hread⟩
        · intro g hg
          rw [List.map_append, List.mem_append, not_or] at hg
          have hne : g ≠ f := by
            rintro rfl
            exact hg.2 (List.mem_singleton.mpr hname)
          rw [Function.update_of_ne hne]
          exact h.absent g hg.1

/-- So do the entries of the rest. -/
lemma Fills.entries {object : List (Text × Json)} {slots slots' : Slots Value}
    {rest : List (Text × Json)} (h : V.Fills object slots)
    (hrest : V.entries rest slots = .ok slots') :
    V.Fills (object ++ rest) slots' := by
  induction rest generalizing object slots with
  | nil =>
      cases hrest
      rw [List.append_nil]
      exact h
  | cons next rest ih =>
      unfold StructVisitor.entries at hrest
      split at hrest
      · cases hrest
      · rename_i slots hentry
        have hnext := ih (h.entry hentry) hrest
        rwa [List.append_assoc, List.singleton_append] at hnext

/-- The struct that was read from an object is what the object describes. -/
theorem visitMap_ok {object : List (Text × Json)} {record : (f : F) → Value f}
    (h : V.visitMap object = .ok record) : V.Describes object record := by
  have hstart : V.Fills [] (fun _ => none) :=
    ⟨nofun, List.nodup_nil, nofun, fun _ _ => rfl⟩
  unfold visitMap at h
  rcases hslots : V.entries object (fun _ => none) with error | slots
  · rw [hslots] at h
    cases h
  · rw [hslots] at h
    have hfills := hstart.entries hslots
    rw [List.nil_append] at hfills
    have hrecord : ∀ f, V.value slots f = some (record f) := by
      change V.finish slots = .ok record at h
      unfold finish at h
      split at h
      · cases h
      · cases h
        exact fun f => (Option.some_get _).symm
    refine ⟨hfills.known, hfills.nodup, ?_, ?_⟩
    · intro f json hmem
      obtain ⟨value, hvalue, hread⟩ := hfills.present f json hmem
      have hf := hrecord f
      rw [StructVisitor.value, hvalue, Option.some_or] at hf
      rw [hread, Option.some.inj hf]
    · intro f hf
      have hvalue := hrecord f
      rwa [StructVisitor.value, hfills.absent f hf, Option.none_or] at hvalue

omit [DecidableEq F] in
/-- An object with one entry for every field describes what is read from the entries. -/
lemma describes_map {encode : F → Json} {record : (f : F) → Value f}
    (h : ∀ f, V.read f (encode f) = .ok (record f)) :
    V.Describes (V.fields.map fun f => (V.name f, encode f)) record := by
  have hkeys : (V.fields.map fun f => (V.name f, encode f)).map Prod.fst = V.fields.map V.name := by
    rw [List.map_map]
    rfl
  constructor
  · intro key hkey
    rw [hkeys, List.mem_map] at hkey
    obtain ⟨f, -, hf⟩ := hkey
    exact ⟨f, hf⟩
  · rw [hkeys]
    exact V.distinct
  · intro f json hmem
    obtain ⟨g, -, hg⟩ := List.mem_map.mp hmem
    obtain ⟨hname, rfl⟩ := Prod.mk.inj hg
    rw [V.injective hname]
    exact h f
  · intro f hf
    rw [hkeys] at hf
    exact absurd (List.mem_map_of_mem (V.complete f)) hf

/-- The slots filled from the keys of an object that describes a record. -/
def slotsOf (V : StructVisitor ε Value) (record : (f : F) → Value f) (object : List (Text × Json)) :
    Slots Value :=
  fun f => if V.name f ∈ object.map Prod.fst then some (record f) else none

/-- A new entry of a record fills its slot. -/
lemma entry_slotsOf {record : (f : F) → Value f} {object : List (Text × Json)} {f : F} {json : Json}
    (hnew : V.name f ∉ object.map Prod.fst) (hread : V.read f json = .ok (record f)) :
    V.entry (V.slotsOf record object) (V.name f, json) =
      .ok (V.slotsOf record (object ++ [(V.name f, json)])) := by
  have hfind : V.fields.find? (fun g => decide (V.name g = V.name f)) = some f := by
    rcases hfind : V.fields.find? (fun g => decide (V.name g = V.name f)) with _ | g
    · have hnone := List.find?_eq_none.mp hfind f (V.complete f)
      exact absurd (decide_eq_true rfl) hnone
    · have hg : V.name g = V.name f := by simpa using List.find?_some hfind
      rw [V.injective hg]
  have hslot : V.slotsOf record object f = none := if_neg hnew
  unfold entry
  simp only [hfind, hslot, hread, Option.isSome_none, Bool.false_eq_true, if_false]
  congr 1
  funext g
  by_cases hg : g = f
  · subst hg
    rw [Function.update_self, slotsOf, if_pos (by simp)]
  · have hname : V.name g ≠ V.name f := fun h => hg (V.injective h)
    have hkeys : V.name g ∈ (object ++ [(V.name f, json)]).map Prod.fst ↔
        V.name g ∈ object.map Prod.fst := by
      simp [hname]
    rw [Function.update_of_ne hg, slotsOf, slotsOf, if_congr hkeys rfl rfl]

/-- An object that describes a struct is read as that struct. -/
theorem visitMap_of_describes {object : List (Text × Json)} {record : (f : F) → Value f}
    (h : V.Describes object record) : V.visitMap object = .ok record := by
  have hentries : ∀ rest done, done ++ rest = object →
      V.entries rest (V.slotsOf record done) = .ok (V.slotsOf record object) := by
    intro rest
    induction rest with
    | nil =>
        rintro done rfl
        rw [List.append_nil]
        rfl
    | cons next rest ih =>
        intro done hobject
        obtain ⟨key, json⟩ := next
        have hmem : (key, json) ∈ object := by
          rw [← hobject]
          simp
        obtain ⟨f, rfl⟩ := h.known key (List.mem_map_of_mem hmem)
        have hnew : V.name f ∉ done.map Prod.fst := by
          have hnodup := h.nodup
          rw [← hobject, List.map_append, List.nodup_append] at hnodup
          exact fun hdone => hnodup.2.2 _ hdone _ List.mem_cons_self rfl
        rw [entries, entry_slotsOf hnew (h.present f json hmem)]
        exact ih _ (by rw [List.append_assoc, List.singleton_append, hobject])
  have hslots := hentries object [] rfl
  have hvalue : ∀ f, V.value (V.slotsOf record object) f = some (record f) := by
    intro f
    rw [StructVisitor.value, slotsOf]
    split
    · rw [Option.some_or]
    · rename_i hkey
      rw [Option.none_or, h.absent f hkey]
  unfold visitMap
  rw [show (fun _ => none) = V.slotsOf record [] from rfl, hslots]
  change V.finish (V.slotsOf record object) = .ok record
  unfold finish
  split
  · rename_i f hfind
    have hnone := List.find?_some hfind
    rw [hvalue] at hnone
    cases hnone
  · congr 1
    funext f
    exact Option.some.inj ((Option.some_get _).trans (hvalue f))

end StructVisitor

/-! ## Internally tagged enums -/

/-- Reads the tag of a variant, and what stands beside it. -/
def readTagged (tag : Text) (ofName : Text → Option α) : Reader ε (α × Json)
  | .object entries =>
      match entries.filter fun entry => entry.1 = tag with
      | [] => .error (.missingField tag)
      | (_, value) :: more => do
          let variant ← readVariant ofName (← readString value)
          if more.isEmpty then
            return (variant, .object (entries.filter fun entry => entry.1 ≠ tag))
          else .error (.duplicateField tag)
  | .array [] => .error (.missingField tag)
  | .array (item :: items) => do
      let variant ← readVariant ofName (← readString item)
      return (variant, .array items)
  | _ => .error (.invalidType "an internally tagged enum")

/-- The tag of an object is its only entry with that key. -/
lemma readTagged_object_ok {tag : Text} {ofName : Text → Option α} {entries : List (Text × Json)}
    {variant : α} {rest : Json}
    (h : readTagged (ε := ε) tag ofName (.object entries) = .ok (variant, rest)) :
    ∃ name, ofName name = some variant ∧
      (entries.filter fun entry => entry.1 = tag) = [(tag, .string name)] ∧
      rest = .object (entries.filter fun entry => entry.1 ≠ tag) := by
  unfold readTagged at h
  simp only at h
  split at h
  · cases h
  · rename_i key value more hfilter
    have hkey : key = tag := by
      have hmem : (key, value) ∈ entries.filter fun entry => entry.1 = tag := by
        rw [hfilter]
        exact List.mem_cons_self
      simpa using (List.mem_filter.mp hmem).2
    cases hvalue : readString (ε := ε) value with
    | error error =>
        rw [hvalue] at h
        cases h
    | ok name =>
        obtain rfl := readString_ok hvalue
        cases hname : readVariant (ε := ε) ofName name with
        | error error =>
            simp only [hvalue, hname, bind, Except.bind] at h
            cases h
        | ok read =>
            simp only [hvalue, hname, bind, Except.bind] at h
            split at h
            · rename_i hmore
              rw [List.isEmpty_iff] at hmore
              cases h
              exact ⟨name, readVariant_ok hname, by rw [hfilter, hmore, hkey], rfl⟩
            · cases h

/-- Reads what stands beside the tag of a variant without fields. -/
def readUnit : Reader ε Unit
  | .object _ => .ok ()
  | .array [] => .ok ()
  | .array _ => .error .trailing
  | _ => .error (.invalidType "unit")

end Serde

end Custode.Found
