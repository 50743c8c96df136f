import Mathlib.Data.List.Induction
import StreamQuery.Proofs.Schema.Building
/-!
# Schemas filled in place

Columns are offered to a schema one after another, and some of them may be refused. Whatever comes of
them, at most one column of the schema is primary, each lies under its upper-case name, and what is
found under a name is the column that was last taken under it. A column is refused exactly if it
would be a second primary one, and a refused column leaves no trace.
-/

namespace StreamQuery

open Text

namespace Schema

/-- A column that was offered, and what came of it. -/
abbrev Offer := Column × Except SchemaError Unit

/-- Offers columns one after another, whatever comes of each. -/
def offerAll (columns : List Column) : StateM Schema (List Offer) :=
  columns.mapM fun column => return (column, ← offer column)

/-- The column that was last taken under a name, in any case of letters. -/
def lastTaken? (name : String) (offers : List Offer) : Option Column :=
  (offers.reverse.find? fun offer => offer.2.isOk && sameWord offer.1.name name).map Prod.fst

/-- A primary column meets a primary column of another name, and the error names both. -/
inductive Clash (schema : Schema) (column : Column) : SchemaError → Prop where
  | rival {existing : Column} (listed : existing ∈ schema.columnList)
      (first : existing.primary = true) (second : column.primary = true)
      (apart : sameWord existing.name column.name = false) :
      Clash schema column (.ambiguousPrimaryKey schema.name existing.name column.name)

/-- What a schema of a relation holds after some offers: its own columns, under each name the one that
was last taken, as it was offered but for the relation. -/
structure Holds (relation : String) (offers : List Offer) (schema : Schema) : Prop where
  named : schema.name = relation
  sound : schema.Sound
  bound : ∀ column ∈ schema.columnList, column.relation = relation
  last : ∀ name, schema.get? name =
    (lastTaken? name offers).map fun column => { column with relation := relation }

variable {schema next : Schema} {column : Column} {error : SchemaError}

/-! ### The primary column -/

theorem Sound.primary_unique (sound : schema.Sound) {first second : Column}
    (firstListed : first ∈ schema.columnList) (secondListed : second ∈ schema.columnList)
    (firstPrimary : first.primary = true) (secondPrimary : second.primary = true) :
    first = second := by
  obtain ⟨left, leftMember, rfl⟩ := List.mem_map.1 firstListed
  obtain ⟨right, rightMember, rfl⟩ := List.mem_map.1 secondListed
  have same := sound.single left leftMember right rightMember firstPrimary secondPrimary
  have found := Keyed.find?_of_mem sound.ordered leftMember
  rw [same, Keyed.find?_of_mem sound.ordered rightMember] at found
  exact (Option.some.inj found).symm

theorem Sound.countP_primary (sound : schema.Sound) :
    schema.columnList.countP Column.primary ≤ 1 := by
  have apart := sound.primary_apart.filter Column.primary
  rw [List.countP_eq_length_filter]
  cases selected : schema.columnList.filter Column.primary with
  | nil => exact Nat.zero_le 1
  | cons first others =>
      cases others with
      | nil => exact Nat.le_refl 1
      | cons second rest =>
          have firstPrimary : first.primary = true :=
            List.of_mem_filter (selected ▸ List.mem_cons_self)
          have secondPrimary : second.primary = true :=
            List.of_mem_filter (selected ▸ List.mem_cons_of_mem _ List.mem_cons_self)
          rw [selected] at apart
          have secondary := List.rel_of_pairwise_cons apart List.mem_cons_self firstPrimary
          rw [secondPrimary] at secondary
          cases secondary

theorem Sound.primary?_iff (sound : schema.Sound) :
    schema.primary? = some column ↔ column ∈ schema.columnList ∧ column.primary = true := by
  constructor
  · intro found
    exact ⟨List.mem_of_find?_eq_some found, List.find?_some found⟩
  · rintro ⟨listed, primary⟩
    obtain ⟨first, found⟩ : ∃ first, schema.primary? = some first :=
      Option.isSome_iff_exists.1 (List.find?_isSome.2 ⟨column, listed, primary⟩)
    have same := sound.primary_unique (List.mem_of_find?_eq_some found) listed
      (List.find?_some found) primary
    rw [found, same]

/-! ### One offer -/

theorem insert_error_iff :
    schema.insert column = .error error ↔ ∃ existing, schema.rival? column = some existing ∧
      error = .ambiguousPrimaryKey schema.name existing.name column.name := by
  unfold insert
  cases schema.rival? column with
  | none => simp
  | some existing => simp [eq_comm]

theorem Sound.insert_error_iff_clash (sound : schema.Sound) :
    schema.insert column = .error error ↔ schema.Clash column error := by
  rw [insert_error_iff]
  constructor
  · rintro ⟨existing, found, rfl⟩
    obtain ⟨second, found, apart⟩ : column.primary = true ∧
        schema.primary? = some existing ∧ sameWord existing.name column.name = false := by
      simpa [rival?, Option.filter_eq_some_iff] using found
    obtain ⟨listed, first⟩ := sound.primary?_iff.1 found
    exact .rival listed first second apart
  · rintro ⟨listed, first, second, apart⟩
    refine ⟨_, ?_, rfl⟩
    rw [rival?, if_pos second, sound.primary?_iff.2 ⟨listed, first⟩, Option.filter_some, apart]
    rfl

/-- An offer either puts the column into the schema, or is told why not and does nothing. -/
theorem offer_cases (column : Column) (schema : Schema) :
    (∃ grown, schema.insert column = .ok grown ∧
        (offer column).run schema = (.ok (), grown)) ∨
      ∃ error, schema.insert column = .error error ∧
        (offer column).run schema = (.error error, schema) := by
  cases inserted : schema.insert column with
  | ok grown =>
      refine .inl ⟨grown, rfl, ?_⟩
      simp only [offer, StateT.run_bind, StateT.run_get, pure_bind, inserted]
      rfl
  | error error =>
      refine .inr ⟨error, rfl, ?_⟩
      simp only [offer, StateT.run_bind, StateT.run_get, pure_bind, inserted]
      rfl

theorem Sound.offer_refuses_iff (sound : schema.Sound) :
    ((offer column).run schema).1 = .error error ↔ schema.Clash column error := by
  rw [← sound.insert_error_iff_clash]
  rcases offer_cases column schema with ⟨grown, inserted, run⟩ | ⟨fault, failed, run⟩
  · simp [run, inserted]
  · simp [run, failed]

theorem offer_refused (refused : ((offer column).run schema).1 = .error error) :
    ((offer column).run schema).2 = schema := by
  rcases offer_cases column schema with ⟨grown, -, run⟩ | ⟨fault, -, run⟩
  · rw [run] at refused
    cases refused
  · rw [run]

theorem lastTaken?_concat (name : String) (offers : List Offer) (offer : Offer) :
    lastTaken? name (offers ++ [offer]) =
      if offer.2.isOk && sameWord offer.1.name name then some offer.1
      else lastTaken? name offers := by
  rw [lastTaken?, List.reverse_append, List.reverse_singleton, List.singleton_append,
    List.find?_cons]
  split
  · next taken =>
      rw [if_pos taken]
      rfl
  · next other =>
      rw [if_neg (Bool.not_eq_true _ ▸ other)]
      rfl

theorem get?_insert (inserted : schema.insert column = .ok next) (name : String) :
    next.get? name =
      if sameWord column.name name then some { column with relation := schema.name }
      else schema.get? name := by
  obtain ⟨-, rfl⟩ := insert_ok inserted
  simp only [get?, Keyed.find?_insert, sameWord, beq_iff_eq, @eq_comm _ (upperCase name)]

theorem empty_holds (relation : String) : Holds relation [] (empty relation) :=
  ⟨rfl, empty_sound relation, nofun, fun _ => rfl⟩

/-- What one offer keeps, whether the column is taken or not. -/
theorem Holds.offered {relation : String} {offers : List Offer}
    (holds : Holds relation offers schema) (column : Column) :
    Holds relation (offers ++ [(column, ((offer column).run schema).1)])
      ((offer column).run schema).2 := by
  rcases offer_cases column schema with ⟨grown, inserted, run⟩ | ⟨error, -, run⟩
  · rw [run]
    refine ⟨(insert_name inserted).trans holds.named, insert_sound holds.sound inserted, ?_, ?_⟩
    · intro found listed
      rcases mem_columnList_insert inserted listed with rfl | earlier
      · exact holds.named
      · exact holds.bound found earlier
    · intro name
      rw [get?_insert inserted, lastTaken?_concat, holds.last, holds.named]
      simp only [Except.isOk, Except.toBool, Bool.true_and]
      split <;> rfl
  · rw [run]
    refine ⟨holds.named, holds.sound, holds.bound, fun name => ?_⟩
    rw [lastTaken?_concat]
    exact holds.last name

/-! ### All offers -/

theorem offerAll_concat (columns : List Column) (column : Column) (schema : Schema) :
    (offerAll (columns ++ [column])).run schema =
      let earlier := (offerAll columns).run schema
      let offered := (offer column).run earlier.2
      (earlier.1 ++ [(column, offered.1)], offered.2) := by
  rw [offerAll, List.mapM_append]
  rfl

theorem offerAll_holds (relation : String) (columns : List Column) :
    Holds relation ((offerAll columns).run (empty relation)).1
      ((offerAll columns).run (empty relation)).2 := by
  -- The last offer decides what is found, so the run grows at its end.
  induction columns using List.reverseRecOn with
  | nil => exact empty_holds relation
  | append_singleton columns column ih =>
      rw [offerAll_concat]
      exact ih.offered column

theorem offerAll_columns (columns : List Column) (schema : Schema) :
    ((offerAll columns).run schema).1.map Prod.fst = columns := by
  induction columns using List.reverseRecOn with
  | nil => rfl
  | append_singleton columns column ih =>
      rw [offerAll_concat]
      simp [ih]

/-- Whatever columns are offered to a new schema, and whichever of them it refuses: each column lies
under its upper-case name and belongs to the relation, at most one is primary, and what is found under
a name is the column last taken under it. The next column is refused exactly if it clashes, and then
the schema stays as it was. -/
theorem representation_kept (relation : String) (columns : List Column) {offers : List Offer}
    (run : (offerAll columns).run (empty relation) = (offers, schema)) :
    offers.map Prod.fst = columns ∧ Holds relation offers schema ∧
      schema.columnList.countP Column.primary ≤ 1 ∧
      ∀ column error,
        (((offer column).run schema).1 = .error error ↔ schema.Clash column error) ∧
        (((offer column).run schema).1 = .error error →
          ((offer column).run schema).2 = schema) := by
  have offered := offerAll_columns columns (empty relation)
  have holds := offerAll_holds relation columns
  rw [run] at offered holds
  refine ⟨offered, holds, holds.sound.countP_primary, fun column error => ?_⟩
  exact ⟨holds.sound.offer_refuses_iff, offer_refused⟩

/-- A key that is named again in other cases, gives its mark up, and cannot have it back once another
column is the key. -/
def movingKey : List Column :=
  [{ Column.plain "id" .bigint with primary := true },
    { Column.plain "code" .string with primary := true },
    { Column.plain "Id" .int with primary := true }, .plain "ID" .string,
    { Column.plain "code" .string with primary := true },
    { Column.plain "iD" .int with primary := true }]

theorem moving_key_kept :
    ∃ offers schema, (offerAll movingKey).run (empty "orders") = (offers, schema) ∧
      offers.map (fun offer => offer.2.isOk) = [true, false, true, true, true, false] ∧
      Holds "orders" offers schema ∧ schema.columnList.countP Column.primary ≤ 1 ∧
      schema.get? "iD" = some { Column.plain "ID" .string with relation := "orders" } ∧
      schema.Clash { Column.plain "note" .string with primary := true }
        (.ambiguousPrimaryKey "orders" "code" "note") ∧
      ((offer { Column.plain "note" .string with primary := true }).run schema).2 = schema := by
  obtain ⟨-, holds, single, next⟩ := representation_kept "orders" movingKey rfl
  obtain ⟨clashes, stays⟩ := next { Column.plain "note" .string with primary := true }
    (.ambiguousPrimaryKey "orders" "code" "note")
  exact ⟨_, _, rfl, rfl, holds, single, rfl, clashes.1 rfl, stays rfl⟩

end Schema

end StreamQuery
