import StreamQuery.Proofs.Keyed
import StreamQuery.Proofs.Results
import StreamQuery.Record.Basic
import StreamQuery.Schema.Compare
/-!
# Schemas built from columns

A schema that was built column by column holds each column under its upper-case name, in the order
of these names, and at most one of them is primary. Building a schema again from what is told of its
columns gives the same columns, and comparing the two shows no difference.
-/

namespace StreamQuery

open Text

/-- What a column list tells of a column. -/
def Column.told (column : Column) : Column :=
  { plain column.name column.type with primary := column.primary }

/-- The column of another relation that is made from what is told. -/
def Column.retold (relation : String) (column : Column) : Column :=
  { column.told with relation := relation }

namespace Schema

/-- How the columns of a schema lie. -/
structure Sound (schema : Schema) : Prop where
  ordered : schema.columns.Ordered
  keyed : ∀ pair ∈ schema.columns, pair.1 = upperCase pair.2.name
  single : ∀ first ∈ schema.columns, ∀ second ∈ schema.columns,
    first.2.primary = true → second.2.primary = true → first.1 = second.1

theorem empty_sound (name : String) : (empty name).Sound :=
  ⟨Keyed.ordered_nil, nofun, nofun⟩

variable {schema built : Schema} {column : Column}

theorem insert_ok (inserted : schema.insert column = .ok built) :
    schema.rival? column = none ∧
      built = { schema with
        columns := Keyed.insert (upperCase column.name) { column with relation := schema.name }
          schema.columns } := by
  unfold insert at inserted
  split at inserted
  · cases inserted
  · next free => exact ⟨free, (Except.ok.inj inserted).symm⟩

theorem insert_name (inserted : schema.insert column = .ok built) : built.name = schema.name := by
  rw [(insert_ok inserted).2]

theorem mem_columnList_insert (inserted : schema.insert column = .ok built) {found : Column}
    (listed : found ∈ built.columnList) :
    found = { column with relation := schema.name } ∨ found ∈ schema.columnList := by
  obtain ⟨-, rfl⟩ := insert_ok inserted
  obtain ⟨pair, member, rfl⟩ := List.mem_map.1 listed
  rcases Keyed.mem_insert member with rfl | member
  · exact .inl rfl
  · exact .inr (List.mem_map_of_mem member)

/-- Every primary column has the name of one that may be added as primary. -/
theorem Sound.of_rival_none (sound : schema.Sound) (free : schema.rival? column = none)
    (primary : column.primary = true) {pair : String × Column} (member : pair ∈ schema.columns)
    (other : pair.2.primary = true) : pair.1 = upperCase column.name := by
  obtain ⟨first, found⟩ : ∃ first, schema.primary? = some first := by
    refine Option.isSome_iff_exists.1 (List.find?_isSome.2 ⟨pair.2, ?_, other⟩)
    exact List.mem_map_of_mem member
  have firstPrimary : first.primary = true := List.find?_some found
  obtain ⟨⟨key, value⟩, firstMember, same⟩ := List.mem_map.1 (List.mem_of_find?_eq_some found)
  cases same
  have named : sameWord value.name column.name = true := by
    simpa [rival?, primary, found] using free
  calc pair.1 = key := sound.single pair member (key, value) firstMember other firstPrimary
    _ = upperCase value.name := sound.keyed (key, value) firstMember
    _ = upperCase column.name := eq_of_beq named

theorem insert_sound (sound : schema.Sound) (inserted : schema.insert column = .ok built) :
    built.Sound := by
  obtain ⟨free, rfl⟩ := insert_ok inserted
  refine ⟨Keyed.insert_ordered sound.ordered _ _, ?_, ?_⟩
  · intro pair member
    rcases Keyed.mem_insert member with rfl | member
    · rfl
    · exact sound.keyed pair member
  · intro first firstMember second secondMember firstPrimary secondPrimary
    rcases Keyed.mem_insert firstMember with rfl | firstMember
    · rcases Keyed.mem_insert secondMember with rfl | secondMember
      · rfl
      · exact (sound.of_rival_none free firstPrimary secondMember secondPrimary).symm
    · rcases Keyed.mem_insert secondMember with rfl | secondMember
      · exact sound.of_rival_none free secondPrimary firstMember firstPrimary
      · exact sound.single first firstMember second secondMember firstPrimary secondPrimary

theorem Sound.primary_apart (sound : schema.Sound) :
    schema.columnList.Pairwise fun left right => left.primary = true → right.primary = false := by
  have growing : schema.columns.Pairwise fun left right => left.1 < right.1 :=
    List.pairwise_map.1 sound.ordered
  refine List.pairwise_map.2 (growing.imp_of_mem ?_)
  intro left right leftMember rightMember less leftPrimary
  by_contra rightPrimary
  have same := sound.single left leftMember right rightMember leftPrimary
    (by simpa using rightPrimary)
  exact String.lt_irrefl _ (same ▸ less)

/-- What a schema that was built holds, and where it comes from. -/
structure BuiltFrom (start : Schema) (columns : List Column) (built : Schema) : Prop where
  sound : built.Sound
  origin : ∀ column ∈ built.columnList, column ∈ start.columnList ∨
    ∃ given ∈ columns, column = { given with relation := start.name }
  kept : ∀ key ∈ Keyed.keys start.columns, key ∈ Keyed.keys built.columns
  present : ∀ column ∈ columns, upperCase column.name ∈ Keyed.keys built.columns

theorem insertAll_from {columns : List Column} (sound : schema.Sound)
    (done : schema.insertAll columns = .ok built) : BuiltFrom schema columns built := by
  induction columns generalizing schema with
  | nil =>
      cases done
      exact ⟨sound, fun _ member => .inl member, fun _ member => member, nofun⟩
  | cons column rest ih =>
      have done : (schema.insert column >>= fun next => next.insertAll rest) = .ok built := done
      obtain ⟨next, inserted, done⟩ := ok_of_bind done
      have later := ih (insert_sound sound inserted) done
      obtain ⟨-, rfl⟩ := insert_ok inserted
      refine ⟨later.sound, ?_, ?_, ?_⟩
      · intro other member
        rcases later.origin other member with earlier | ⟨given, among, same⟩
        · rcases mem_columnList_insert inserted earlier with rfl | older
          · exact .inr ⟨column, List.mem_cons_self, rfl⟩
          · exact .inl older
        · exact .inr ⟨given, List.mem_cons_of_mem _ among, same⟩
      · exact fun key member => later.kept key (Keyed.mem_keys_insert.2 (.inr member))
      · intro other member
        rcases List.mem_cons.1 member with rfl | member
        · exact later.kept _ (Keyed.mem_keys_insert.2 (.inl rfl))
        · exact later.present other member

/-! ### Building again -/

theorem primary?_append (schema : Schema) (key : String) (column : Column) :
    primary? { schema with columns := schema.columns ++ [(key, column)] } =
      schema.primary?.or (if column.primary then some column else none) := by
  simp [primary?, Keyed.values, List.find?_append, List.find?_cons]
  cases column.primary <;> rfl

theorem insert_last (schema : Schema) {column : Column}
    (below : ∀ key ∈ Keyed.keys schema.columns, key < upperCase column.name)
    (free : column.primary = true → schema.primary? = none) :
    schema.insert column.told =
      .ok { schema with
        columns := schema.columns ++ [(upperCase column.name, column.retold schema.name)] } := by
  have unrivalled : schema.rival? column.told = none := by
    unfold rival?
    split
    · next primary => rw [free primary, Option.filter_none]
    · rfl
  rw [insert, unrivalled]
  have last := Keyed.insert_last below (column.retold schema.name)
  exact congrArg (fun columns => Except.ok { schema with columns := columns }) last

/-- Columns that come in the order of their keys are put one behind the other. -/
theorem insertAll_told {pairs : Keyed Column} (schema : Schema)
    (below : ∀ key ∈ Keyed.keys schema.columns, ∀ pair ∈ pairs, key < pair.1)
    (ordered : pairs.Ordered) (keyed : ∀ pair ∈ pairs, pair.1 = upperCase pair.2.name)
    (single : ∀ first ∈ pairs, ∀ second ∈ pairs,
      first.2.primary = true → second.2.primary = true → first.1 = second.1)
    (free : ∀ pair ∈ pairs, pair.2.primary = true → schema.primary? = none) :
    schema.insertAll ((Keyed.values pairs).map Column.told) =
      .ok { schema with
        columns := schema.columns ++
          pairs.map fun pair => (pair.1, pair.2.retold schema.name) } := by
  induction pairs generalizing schema with
  | nil => simp [insertAll, Keyed.values, pure, Except.pure]
  | cons pair rest ih =>
      obtain ⟨key, column⟩ := pair
      obtain ⟨above, growing⟩ := Keyed.ordered_cons.1 ordered
      obtain rfl : key = upperCase column.name := keyed (key, column) List.mem_cons_self
      have first := schema.insert_last
        (fun k member => below k member (upperCase column.name, column) List.mem_cons_self)
        (free (upperCase column.name, column) List.mem_cons_self)
      have later := ih
        { schema with
          columns := schema.columns ++ [(upperCase column.name, column.retold schema.name)] }
        ?_ growing (fun pair member => keyed pair (List.mem_cons_of_mem _ member))
        (fun pair member other among => single pair (List.mem_cons_of_mem _ member) other
          (List.mem_cons_of_mem _ among)) ?_
      · calc schema.insertAll ((Keyed.values ((_, column) :: rest)).map Column.told)
            = schema.insert column.told >>= fun next =>
                next.insertAll ((Keyed.values rest).map Column.told) := rfl
          _ = .ok _ := by
            rw [first]
            exact later
          _ = .ok _ := by simp
      · intro k member pair among
        simp only [Keyed.keys, List.map_append, List.mem_append] at member
        rcases member with member | member
        · exact below k member pair (List.mem_cons_of_mem _ among)
        · obtain rfl := List.mem_singleton.1 member
          exact above pair.1 (Keyed.mem_keys among)
      · intro pair member primary
        have secondary : column.primary = false := by
          by_contra both
          have same := single (upperCase column.name, column) List.mem_cons_self pair
            (List.mem_cons_of_mem _ member) (by simpa using both) primary
          have less : upperCase column.name < pair.1 := above pair.1 (Keyed.mem_keys member)
          exact String.lt_irrefl _ (same ▸ less)
        rw [primary?_append, free pair (List.mem_cons_of_mem _ member) primary]
        simp [Column.retold, Column.told, secondary]

/-- A remote schema tells what a native one holds. -/
structure Retells (remote native : Schema) : Prop where
  columns : remote.columns =
    native.columns.map fun pair => (pair.1, pair.2.retold remote.name)

theorem Sound.insertAll_told (sound : schema.Sound) (start : Schema)
    (fresh : start.columns = []) :
    ∃ built, start.insertAll (schema.columnList.map Column.told) = .ok built ∧
      built.Retells schema := by
  refine ⟨_, Schema.insertAll_told start ?_ sound.ordered sound.keyed sound.single ?_, ?_⟩
  · simp [fresh, Keyed.keys]
  · simp [primary?, fresh, Keyed.values]
  · exact ⟨by simp [fresh]⟩

end Schema

end StreamQuery
