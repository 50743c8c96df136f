import Mathlib.Data.List.Sort
import StreamQuery.Proofs.ColumnType.AnyCase
import StreamQuery.Proofs.Schema.Building
/-!
# What a comparison of schemas finds

Two schemas that were built by insertions are compared name by name. Every name on which they
disagree is told exactly once, in the order of the names, and the comparison the other way around
tells the same names with the sides exchanged.
-/

namespace StreamQuery

open Text

namespace Schema

/-- Schemas that come from an empty one by insertions. An insertion that fails makes none. -/
inductive Built : Schema → Prop where
  | empty (name : String) : Built (.empty name)
  | withKind {schema : Schema} (built : Built schema) (kind : RelationKind) :
      Built (schema.withKind kind)
  | insert {schema next : Schema} {column : Column} (built : Built schema)
      (inserted : schema.insert column = .ok next) : Built next

/-- A column of the name, in any case of letters, has the type. -/
def Has (schema : Schema) (name : String) (type : ColumnType) : Prop :=
  ∃ column ∈ schema.columnList, sameWord column.name name = true ∧ column.type = type

/-- Both schemas have a column of the name with one type, or neither has one. -/
def AgreeOn (expected actual : Schema) (name : String) : Prop :=
  ∀ type, expected.Has name type ↔ actual.Has name type

end Schema

/-- What a mismatch says holds of the two schemas. -/
inductive FieldMismatch.Tells (expected actual : Schema) : FieldMismatch → Prop where
  | differs {left right : Column} (required : left ∈ expected.columnList)
      (found : right ∈ actual.columnList) (same : sameWord left.name right.name = true)
      (apart : left.type ≠ right.type) :
      Tells expected actual (.differs right.name left.type right.type)
  | lacking {column : Column} (required : column ∈ expected.columnList)
      (none : ∀ type, ¬actual.Has column.name type) :
      Tells expected actual (.missing column.name actual.name)
  | extra {column : Column} (found : column ∈ actual.columnList)
      (none : ∀ type, ¬expected.Has column.name type) :
      Tells expected actual (.missing column.name expected.name)

/-- The same difference seen from the other side: types change places, what is missing stays. -/
inductive FieldMismatch.Mirrors : FieldMismatch → FieldMismatch → Prop where
  | missing (field relation : String) : Mirrors (.missing field relation) (.missing field relation)
  | differs {field other : String} (same : sameWord field other = true)
      (expected actual : ColumnType) :
      Mirrors (.differs field expected actual) (.differs other actual expected)

namespace Schema

/-- The differences of two schemas are those of their names, each told once and in order. -/
structure ToldExactly (expected actual : Schema) : Prop where
  none_iff : differences expected actual = [] ↔ ∀ name, AgreeOn expected actual name
  named_iff : ∀ name, (∃ found ∈ differences expected actual, sameWord found.field name = true) ↔
    ¬AgreeOn expected actual name
  /-- The upper-case names grow, so that no name is told twice. -/
  ordered : ((differences expected actual).map fun found => upperCase found.field).Pairwise (· < ·)
  true_of_each : ∀ found ∈ differences expected actual, found.Tells expected actual

theorem Built.insertAll {schema built : Schema} {columns : List Column} (start : schema.Built)
    (done : schema.insertAll columns = .ok built) : built.Built := by
  induction columns generalizing schema with
  | nil =>
      cases done
      exact start
  | cons column rest ih =>
      obtain ⟨next, inserted, done⟩ := ok_of_bind done
      exact ih (start.insert inserted) done

theorem Built.sound {schema : Schema} (built : schema.Built) : schema.Sound := by
  induction built with
  | empty name => exact empty_sound name
  | withKind built kind ih => exact ⟨ih.ordered, ih.keyed, ih.single⟩
  | insert built inserted ih => exact insert_sound ih inserted

/-! ### Looking up in any case -/

section Lookup

variable {schema : Schema} {name other : String} {column : Column} {type : ColumnType}

theorem get?_congr (same : sameWord name other = true) : schema.get? name = schema.get? other := by
  rw [get?, get?, eq_of_beq same]

theorem Sound.get?_iff (sound : schema.Sound) :
    schema.get? name = some column ↔
      column ∈ schema.columnList ∧ sameWord column.name name = true := by
  constructor
  · intro found
    have member := Keyed.mem_of_find? found
    exact ⟨List.mem_map_of_mem member, beq_iff_eq.2 (sound.keyed _ member).symm⟩
  · rintro ⟨listed, same⟩
    obtain ⟨⟨key, value⟩, member, rfl⟩ := List.mem_map.1 listed
    have key_eq : key = upperCase name := (sound.keyed _ member).trans (eq_of_beq same)
    rw [get?, ← key_eq]
    exact Keyed.find?_of_mem sound.ordered member

theorem Sound.has_iff (sound : schema.Sound) :
    schema.Has name type ↔ (schema.get? name).map Column.type = some type := by
  simp only [Has, Option.map_eq_some_iff, sound.get?_iff, and_assoc]

theorem Sound.lacks (sound : schema.Sound) (none : schema.get? name = none) :
    ∀ type, ¬schema.Has name type := by
  intro type
  rw [sound.has_iff, none]
  exact nofun

theorem mem_keys_of_get? (found : schema.get? name = some column) :
    upperCase name ∈ Keyed.keys schema.columns :=
  Keyed.mem_keys (Keyed.mem_of_find? found)

end Lookup

variable {expected actual : Schema} {name : String}

theorem agreeOn_iff (left : expected.Sound) (right : actual.Sound) :
    AgreeOn expected actual name ↔
      (expected.get? name).map Column.type = (actual.get? name).map Column.type := by
  simp only [AgreeOn, left.has_iff, right.has_iff]
  exact Option.ext_iff.symm

/-! ### One name -/

theorem compareName?_congr {other : String} (same : sameWord name other = true) :
    compareName? expected actual name = compareName? expected actual other := by
  rw [compareName?, compareName?, get?_congr same, get?_congr same]

theorem compareName?_none_iff (left : expected.Sound) (right : actual.Sound) :
    compareName? expected actual name = none ↔ AgreeOn expected actual name := by
  rw [agreeOn_iff left right, compareName?]
  cases expected.get? name <;> cases actual.get? name <;> simp [compareColumn?]

/-- The difference under a name is about the name, and what it says is so. -/
theorem compareName?_tells (left : expected.Sound) (right : actual.Sound) {found : FieldMismatch}
    (told : compareName? expected actual name = some found) :
    sameWord found.field name = true ∧ found.Tells expected actual := by
  unfold compareName? at told
  split at told
  · next one other given held =>
      obtain ⟨required, asked⟩ := left.get?_iff.1 given
      obtain ⟨listed, named⟩ := right.get?_iff.1 held
      unfold compareColumn? at told
      split at told
      · cases told
      · next apart =>
          cases told
          have same : sameWord one.name other.name = true :=
            beq_iff_eq.2 ((eq_of_beq asked).trans (eq_of_beq named).symm)
          exact ⟨named, .differs required listed same apart⟩
  · next one given none =>
      cases told
      obtain ⟨required, asked⟩ := left.get?_iff.1 given
      exact ⟨asked, .lacking required (right.lacks ((get?_congr asked).trans none))⟩
  · next other none held =>
      cases told
      obtain ⟨listed, named⟩ := right.get?_iff.1 held
      exact ⟨named, .extra listed (left.lacks ((get?_congr named).trans none))⟩
  · cases told

/-- The difference under a name seen from both sides. -/
theorem compareName?_mirrors (left : expected.Sound) (right : actual.Sound) (name : String) :
    Option.Rel FieldMismatch.Mirrors (compareName? expected actual name)
      (compareName? actual expected name) := by
  unfold compareName?
  cases given : expected.get? name with
  | none =>
      cases actual.get? name with
      | none => exact .none
      | some column => exact .some (.missing _ _)
  | some one =>
      cases held : actual.get? name with
      | none => exact .some (.missing _ _)
      | some other =>
          simp only [compareColumn?, eq_comm (a := other.type)]
          split
          · exact .none
          · have asked := eq_of_beq (left.get?_iff.1 given).2
            have named := eq_of_beq (right.get?_iff.1 held).2
            exact .some (.differs (beq_iff_eq.2 (named.trans asked.symm)) _ _)

/-! ### All names -/

theorem mem_sharedNames : name ∈ sharedNames expected actual ↔
    name ∈ Keyed.keys expected.columns ∨ name ∈ Keyed.keys actual.columns := by
  rw [sharedNames, Keyed.mem_keys_ofList, List.map_map, ← List.mem_append]
  simp [Function.comp_def]

theorem sharedNames_ordered (expected actual : Schema) :
    (sharedNames expected actual).Pairwise (· < ·) :=
  Keyed.ofList_ordered _

theorem sharedNames_comm (expected actual : Schema) :
    sharedNames expected actual = sharedNames actual expected := by
  have here := sharedNames_ordered expected actual
  refine here.eq_of_mem_iff (sharedNames_ordered actual expected) fun name => ?_
  rw [mem_sharedNames, mem_sharedNames, or_comm]

theorem Sound.upperCase_key {schema : Schema} (sound : schema.Sound)
    (listed : name ∈ Keyed.keys schema.columns) : upperCase name = name := by
  obtain ⟨pair, member, rfl⟩ := List.mem_map.1 listed
  rw [sound.keyed pair member, upperCase_upperCase]

theorem upperCase_shared (left : expected.Sound) (right : actual.Sound)
    (shared : name ∈ sharedNames expected actual) : upperCase name = name := by
  rcases mem_sharedNames.1 shared with listed | listed
  · exact left.upperCase_key listed
  · exact right.upperCase_key listed

/-- A name under which a difference is told is the upper-case name of its field. -/
theorem upperCase_told (left : expected.Sound) (right : actual.Sound)
    (shared : name ∈ sharedNames expected actual) {found : FieldMismatch}
    (told : compareName? expected actual name = some found) : upperCase found.field = name :=
  (eq_of_beq (compareName?_tells left right told).1).trans (upperCase_shared left right shared)

theorem shared_of_disagree (left : expected.Sound) (right : actual.Sound)
    (disagree : ¬AgreeOn expected actual name) : upperCase name ∈ sharedNames expected actual := by
  rw [agreeOn_iff left right] at disagree
  rw [mem_sharedNames]
  cases given : expected.get? name with
  | some column => exact .inl (mem_keys_of_get? given)
  | none =>
      cases held : actual.get? name with
      | some column => exact .inr (mem_keys_of_get? held)
      | none => exact absurd rfl (given ▸ held ▸ disagree)

theorem named_iff (left : expected.Sound) (right : actual.Sound) (name : String) :
    (∃ found ∈ differences expected actual, sameWord found.field name = true) ↔
      ¬AgreeOn expected actual name := by
  constructor
  · rintro ⟨found, member, same⟩
    obtain ⟨key, shared, told⟩ := List.mem_filterMap.1 member
    have about := (compareName?_tells left right told).1
    have here : sameWord name key = true :=
      beq_iff_eq.2 ((eq_of_beq same).symm.trans (eq_of_beq about))
    rw [← compareName?_none_iff left right, compareName?_congr here, told]
    exact nofun
  · intro disagree
    have upper : sameWord (upperCase name) name = true := beq_iff_eq.2 (upperCase_upperCase name)
    obtain ⟨found, told⟩ :=
      Option.ne_none_iff_exists'.1 (mt (compareName?_none_iff left right).1 disagree)
    refine ⟨found, List.mem_filterMap.2 ⟨upperCase name, ?_, ?_⟩, ?_⟩
    · exact shared_of_disagree left right disagree
    · rw [compareName?_congr upper, told]
    · exact (compareName?_tells left right told).1

theorem toldExactly (left : expected.Sound) (right : actual.Sound) :
    ToldExactly expected actual where
  none_iff := by
    have named := named_iff left right
    constructor
    · intro none name
      by_contra disagree
      obtain ⟨found, member, -⟩ := (named name).2 disagree
      rw [none] at member
      cases member
    · intro agree
      refine List.eq_nil_iff_forall_not_mem.2 fun found member => ?_
      exact (named found.field).1 ⟨found, member, beq_self_eq_true _⟩ (agree found.field)
  named_iff := named_iff left right
  ordered := by
    rw [List.pairwise_map, differences, List.pairwise_filterMap]
    refine (sharedNames_ordered expected actual).imp_of_mem ?_
    intro first second here there less found told other named
    rw [upperCase_told left right here told, upperCase_told left right there named]
    exact less
  true_of_each := by
    intro found member
    obtain ⟨key, -, told⟩ := List.mem_filterMap.1 member
    exact (compareName?_tells left right told).2

theorem differences_mirror (left : expected.Sound) (right : actual.Sound) :
    List.Forall₂ FieldMismatch.Mirrors (differences expected actual)
      (differences actual expected) := by
  rw [differences, differences, sharedNames_comm actual expected]
  have same : List.Forall₂ Eq (sharedNames expected actual) (sharedNames expected actual) :=
    List.forall₂_same.2 fun _ _ => rfl
  refine List.rel_filterMap ?_ same
  rintro name _ rfl
  exact compareName?_mirrors left right name

theorem check_ok_iff : expected.check actual = .ok () ↔ differences expected actual = [] := by
  unfold check
  split <;> simp_all

/-- Two built schemas are compared exactly, and the same from both sides. -/
theorem comparison_exact (left : expected.Built) (right : actual.Built) :
    ToldExactly expected actual ∧
      List.Forall₂ FieldMismatch.Mirrors (differences expected actual)
        (differences actual expected) ∧
      (expected.check actual = .ok () ↔ actual.check expected = .ok ()) := by
  have mirror := differences_mirror left.sound right.sound
  refine ⟨toldExactly left.sound right.sound, mirror, ?_⟩
  rw [check_ok_iff, check_ok_iff, ← List.length_eq_zero_iff, ← List.length_eq_zero_iff,
    mirror.length_eq]

/-- A shelf of a shop as it was planned. -/
def plannedShelf : Except SchemaError Schema :=
  ofColumns "planned" [{ Column.plain "id" .bigint with primary := true }, .plain "Item" .string,
    .plain "note" .string]

/-- The shelf as it stands: a type has changed, one column is gone and one is new. -/
def shelf : Except SchemaError Schema :=
  ofColumns "shelf" [.plain "extra" .int, .plain "ITEM" .string, .plain "ID" .string]

theorem shelf_compared :
    ∃ planned stands, plannedShelf = .ok planned ∧ shelf = .ok stands ∧
      planned.Built ∧ stands.Built ∧ ToldExactly planned stands ∧
      differences planned stands = [.missing "extra" "planned", .differs "ID" .bigint .string,
        .missing "note" "shelf"] ∧
      List.Forall₂ FieldMismatch.Mirrors (differences planned stands)
        [.missing "extra" "planned", .differs "id" .string .bigint, .missing "note" "shelf"] := by
  obtain ⟨planned, made⟩ : ∃ planned, plannedShelf = .ok planned := ⟨_, rfl⟩
  obtain ⟨stands, placed⟩ : ∃ stands, shelf = .ok stands := ⟨_, rfl⟩
  have left : planned.Built := Built.insertAll (.empty "planned") made
  have right : stands.Built := Built.insertAll (.empty "shelf") placed
  obtain ⟨exact, mirror, -⟩ := comparison_exact left right
  refine ⟨planned, stands, made, placed, left, right, exact, ?_⟩
  cases made
  cases placed
  exact ⟨rfl, mirror⟩

end Schema

end StreamQuery
