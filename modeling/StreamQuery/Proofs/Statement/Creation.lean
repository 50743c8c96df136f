import StreamQuery.Proofs.Expr.Parts
import StreamQuery.Proofs.Statement.SelectScan
import StreamQuery.Statement.Create
/-!
# Which relations can be created

A creation has a text exactly when its own parts are sound and, where a query fills the relation,
the kind of the query's source allows it. A rule on the source that is broken decides the error, the
first one in their order when several are.
-/

namespace StreamQuery

open Text

/-- Groups its rows, or computes an aggregate somewhere in an output column. -/
def Select.Aggregates (query : Select) : Prop :=
  query.groupBy ≠ none ∨
    ∃ column ∈ query.columns, ∃ part, column.Contains part ∧ part.isAggregate = true

theorem Select.isAggregated_iff (query : Select) : query.isAggregated = true ↔ query.Aggregates := by
  unfold isAggregated Aggregates
  rw [Bool.or_eq_true, List.any_eq_true, Option.isSome_iff_ne_none]
  simp only [Expr.containsAggregate_iff]

namespace Create

/-- The kind of the relation that a query reads from: declared with it, or else known to the
registry of the creation, or to that of the query where the creation has none. -/
inductive SourceKind (create : Create) (query : Select) (relation : Relation) : RelationKind → Prop
  | declared {kind : RelationKind} (given : relation.kind = some kind) :
      SourceKind create query relation kind
  | registered {kind : RelationKind} {registry : Registry} {schema : Schema}
      (undeclared : relation.kind = none) (attached : create.registry = some registry)
      (found : registry.get? relation.name = some schema) (known : schema.kind = some kind) :
      SourceKind create query relation kind
  | registeredWithQuery {kind : RelationKind} {registry : Registry} {schema : Schema}
      (undeclared : relation.kind = none) (unattached : create.registry = none)
      (attached : query.registry = some registry)
      (found : registry.get? relation.name = some schema) (known : schema.kind = some kind) :
      SourceKind create query relation kind

/-- The rules for a relation of some kind filled by a query from a relation of another. -/
structure FilledBy (create : Create) (query : Select) (relation : Relation) (kind : RelationKind) :
    Prop where
  reads : query.source = some relation
  resolved : create.SourceKind query relation kind
  stream : create.kind = .stream → kind = .stream
  table : create.kind = .table → kind = .stream → query.Aggregates
  unwindowed : create.kind = .table → query.window = none
  written : ∃ body, query.bodyText = .ok body

/-- The rules for a relation defined by its columns. -/
structure DefinedBy (columns : List Column) : Prop where
  present : columns ≠ []
  named : ∀ column ∈ columns, isBlankText column.name = false
  onePrimary : columns.countP Column.primary ≤ 1

structure Acceptable (create : Create) : Prop where
  faultless : create.fault = none
  named : isBlankText create.name = false
  partitions : ∀ count ∈ create.metadata.partitions, 0 < count
  replicas : ∀ count ∈ create.metadata.replicas, 0 < count
  content : (create.source = none ∧ DefinedBy create.columns) ∨
    ∃ query relation kind, create.source = some query ∧ create.columns = [] ∧
      create.FilledBy query relation kind

/-- The error for the first rule on the source that is broken. -/
inductive SourceFault (create : Create) (query : Select) (relation : Relation) :
    StatementError → Prop
  | unresolved (missing : ∀ kind, ¬ create.SourceKind query relation kind) :
      SourceFault create query relation (.relationNotFound relation.name)
  | streamFromTable (stream : create.kind = .stream)
      (resolved : create.SourceKind query relation .table) :
      SourceFault create query relation (.streamFromTable create.name relation.name)
  | tableFromStream (table : create.kind = .table)
      (resolved : create.SourceKind query relation .stream) (plain : ¬ query.Aggregates) :
      SourceFault create query relation (.tableFromStream create.name relation.name)
  | tableFromWindow {kind : RelationKind} (table : create.kind = .table)
      (resolved : create.SourceKind query relation kind)
      (allowed : kind = .stream → query.Aggregates) (windowed : query.window ≠ none) :
      SourceFault create query relation (.tableFromWindow create.name)

/-! ### The source -/

theorem sourceKind_iff {create : Create} {query : Select} {relation : Relation}
    (reads : query.source = some relation) (kind : RelationKind) :
    query.sourceKind? create.registry = some kind ↔ create.SourceKind query relation kind := by
  have spelled : query.sourceKind? create.registry =
      (relation.kind <|> (create.registry <|> query.registry).bind fun registry =>
        (registry.get? relation.name).bind Schema.kind) := by
    unfold Select.sourceKind?
    rw [reads]
    cases declared : relation.kind <;> simp [declared]
  rw [spelled]
  constructor
  · intro found
    cases undeclared : relation.kind with
    | some given =>
        rw [undeclared] at found
        cases found
        exact .declared undeclared
    | none =>
        rw [undeclared] at found
        obtain ⟨registry, attached, found⟩ := Option.bind_eq_some_iff.1 found
        obtain ⟨schema, found, known⟩ := Option.bind_eq_some_iff.1 found
        cases own : create.registry with
        | some mine =>
            rw [own] at attached
            cases attached
            exact .registered undeclared own found known
        | none =>
            rw [own] at attached
            exact .registeredWithQuery undeclared own attached found known
  · intro found
    cases found with
    | declared given => simp [given]
    | registered undeclared attached found known => simp [undeclared, attached, found, known]
    | registeredWithQuery undeclared unattached attached found known =>
        simp [undeclared, unattached, attached, found, known]

theorem checkSource_fault {create : Create} {query : Select} {relation : Relation}
    {error : StatementError} (reads : query.source = some relation)
    (fault : create.SourceFault query relation error) :
    create.checkSource query = .error error := by
  unfold checkSource
  simp only [reads]
  cases fault with
  | unresolved missing =>
      cases found : query.sourceKind? create.registry with
      | none => rfl
      | some kind => exact absurd ((sourceKind_iff reads kind).1 found) (missing kind)
  | streamFromTable stream resolved => simp [(sourceKind_iff reads _).2 resolved, stream]
  | tableFromStream table resolved plain =>
      have single : query.isAggregated = false := by
        rwa [← Bool.not_eq_true, query.isAggregated_iff]
      simp [(sourceKind_iff reads _).2 resolved, table, single]
  | @tableFromWindow kind table resolved allowed windowed =>
      have isWindowed : query.isWindowed = true := Option.isSome_iff_ne_none.2 windowed
      have permitted : ¬ (kind = .stream ∧ query.isAggregated = false) := by
        rintro ⟨stream, single⟩
        have aggregated := query.isAggregated_iff.2 (allowed stream)
        rw [single] at aggregated
        cases aggregated
      simp [(sourceKind_iff reads _).2 resolved, table, permitted, isWindowed]

theorem checkSource_filledBy {create : Create} {query : Select} {relation : Relation}
    {kind : RelationKind} (filled : create.FilledBy query relation kind) :
    create.checkSource query = .ok () := by
  have found := (sourceKind_iff filled.reads kind).2 filled.resolved
  unfold checkSource
  simp only [filled.reads, found]
  cases made : create.kind with
  | stream =>
      rw [filled.stream made]
  | table =>
      have permitted : ¬ (kind = .stream ∧ query.isAggregated = false) := by
        rintro ⟨stream, single⟩
        have aggregated := query.isAggregated_iff.2 (filled.table made stream)
        rw [single] at aggregated
        cases aggregated
      have unwindowed : query.isWindowed = false := by
        rw [Select.isWindowed, filled.unwindowed made]
        rfl
      simp [permitted, unwindowed]

/-- A rule on the source is broken, or all of them hold. -/
theorem sourceFault_or (create : Create) (query : Select) (relation : Relation) :
    (∃ error, create.SourceFault query relation error) ∨
      ∃ kind, create.SourceKind query relation kind ∧
        (create.kind = .stream → kind = .stream) ∧
        (create.kind = .table → kind = .stream → query.Aggregates) ∧
        (create.kind = .table → query.window = none) := by
  by_cases resolvable : ∃ kind, create.SourceKind query relation kind
  · obtain ⟨kind, resolved⟩ := resolvable
    cases made : create.kind with
    | stream =>
        cases kind with
        | stream => exact .inr ⟨.stream, resolved, by simp, by simp, by simp⟩
        | table => exact .inl ⟨_, .streamFromTable made resolved⟩
    | table =>
        by_cases allowed : kind = .stream → query.Aggregates
        · by_cases windowed : query.window = none
          · exact .inr ⟨kind, resolved, by simp, fun _ => allowed, fun _ => windowed⟩
          · exact .inl ⟨_, .tableFromWindow made resolved allowed windowed⟩
        · obtain ⟨stream, plain⟩ := Classical.not_imp.1 allowed
          rw [stream] at resolved
          exact .inl ⟨_, .tableFromStream made resolved plain⟩
  · exact .inl ⟨_, .unresolved (not_exists.1 resolvable)⟩

/-! ### The columns and the properties -/

theorem columnTexts_ok_iff (create : Create) (columns : List Column) (first : Option Column) :
    (∃ texts, create.columnTexts first columns = .ok texts) ↔
      (∀ column ∈ columns, isBlankText column.name = false) ∧
        columns.countP Column.primary + first.toList.length ≤ 1 := by
  induction columns generalizing first with
  | nil =>
      have short : first.toList.length ≤ 1 := by cases first <;> simp
      simp [columnTexts, short]
  | cons column rest induction =>
      unfold columnTexts
      by_cases blank : isBlankText column.name = true
      · simp [blank]
      · have named : isBlankText column.name = false := Bool.eq_false_iff.2 blank
        cases primary : column.primary with
        | true =>
            cases first with
            | some first => simp [named, primary]
            | none => simp [named, primary, exists_ok_map, induction]
        | false => simp [named, primary, exists_ok_map, induction]

theorem optionalText_ok_iff {α : Type} (write : α → Written) (part : Option α) :
    (∃ texts, Select.optionalText write part = .ok texts) ↔
      ∀ item ∈ part, ∃ text, write item = .ok text := by
  cases part with
  | none => simp [Select.optionalText]
  | some item => simp [Select.optionalText, exists_ok_map]

theorem positive_ok_iff (name : String) (count : Nat) :
    (∃ text, Metadata.positive name count = .ok text) ↔ 0 < count := by
  unfold Metadata.positive
  split
  · next zero => simp [zero]
  · next positive => simp [Nat.pos_of_ne_zero positive]

theorem metadata_ok_iff (metadata : Metadata) :
    (∃ clause, metadata.text = .ok clause) ↔
      (∀ count ∈ metadata.partitions, 0 < count) ∧ ∀ count ∈ metadata.replicas, 0 < count := by
  have quoted (name : String) (value : Option String) :
      ∃ texts, Select.optionalText (Metadata.quoted name) value = .ok texts :=
    (optionalText_ok_iff _ _).2 fun item _ => ⟨_, rfl⟩
  have positive (name : String) (value : Option Nat) :
      (∃ texts, Select.optionalText (Metadata.positive name) value = .ok texts) ↔
        ∀ count ∈ value, 0 < count := by
    simp only [optionalText_ok_iff, positive_ok_iff]
  rw [← positive "PARTITIONS", ← positive "REPLICAS"]
  constructor
  · rintro ⟨clause, written⟩
    obtain ⟨texts, textsWritten, _⟩ := ok_of_bind written
    unfold Metadata.propertyTexts at textsWritten
    obtain ⟨_, _, textsWritten⟩ := ok_of_bind textsWritten
    obtain ⟨_, _, textsWritten⟩ := ok_of_bind textsWritten
    obtain ⟨_, _, textsWritten⟩ := ok_of_bind textsWritten
    obtain ⟨partitions, partitionsWritten, textsWritten⟩ := ok_of_bind textsWritten
    obtain ⟨replicas, replicasWritten, _⟩ := ok_of_bind textsWritten
    exact ⟨⟨partitions, partitionsWritten⟩, ⟨replicas, replicasWritten⟩⟩
  · rintro ⟨⟨partitions, partitionsWritten⟩, ⟨replicas, replicasWritten⟩⟩
    obtain ⟨topic, topicWritten⟩ := quoted "KAFKA_TOPIC" metadata.topic
    obtain ⟨keyFormat, keyWritten⟩ := quoted "KEY_FORMAT" metadata.keyFormat
    obtain ⟨valueFormat, valueWritten⟩ := quoted "VALUE_FORMAT" metadata.valueFormat
    obtain ⟨timestamp, timestampWritten⟩ := quoted "TIMESTAMP" metadata.timestamp
    have all : metadata.propertyTexts =
        .ok (topic ++ keyFormat ++ valueFormat ++ partitions ++ replicas ++ timestamp) := by
      unfold Metadata.propertyTexts
      rw [topicWritten, keyWritten, valueWritten, partitionsWritten, replicasWritten,
        timestampWritten]
      rfl
    unfold Metadata.text
    rw [all]
    cases topic ++ keyFormat ++ valueFormat ++ partitions ++ replicas ++ timestamp with
    | nil => exact ⟨none, rfl⟩
    | cons first rest => exact ⟨some _, rfl⟩

/-! ### The whole -/

/-- A creation has a text exactly when each of its parts has one and its source is allowed. -/
theorem written_iff (create : Create) :
    (∃ text, create.text = .ok text) ↔
      create.fault = none ∧ isBlankText create.name = false ∧
        (∀ query ∈ create.source, create.checkSource query = .ok ()) ∧
        (∃ clause, create.metadata.text = .ok clause) ∧
        ((create.source = none ∧ create.columns ≠ [] ∧
            ∃ texts, create.columnTexts none create.columns = .ok texts) ∨
          ∃ query, create.source = some query ∧ create.columns = [] ∧
            ∃ body, query.bodyText = .ok body) := by
  cases faulty : create.fault with
  | some error => simp [text, faulty]
  | none =>
      by_cases blank : isBlankText create.name = true
      · simp [text, faulty, blank]
      · have named : isBlankText create.name = false := Bool.eq_false_iff.2 blank
        cases sourced : create.source with
        | none =>
            cases columns : create.columns with
            | nil => simp [text, faulty, named, sourced, columns, exists_ok_bind]
            | cons column rest =>
                simp [text, faulty, named, sourced, columns, exists_ok_bind, pure, Except.pure,
                  -bind_pure_comp]
        | some query =>
            have unit : (∃ checked, create.checkSource query = .ok checked) ↔
                create.checkSource query = .ok () := Unique.exists_iff
            cases columns : create.columns with
            | nil =>
                simp [text, faulty, named, sourced, columns, exists_ok_bind, pure, Except.pure,
                  unit, -bind_pure_comp]
            | cons column rest => simp [text, faulty, named, sourced, columns, exists_ok_bind]

theorem source_of_bodyText {query : Select} {body : String} (written : query.bodyText = .ok body) :
    ∃ relation, query.source = some relation := by
  rw [Select.bodyText_eq] at written
  obtain ⟨relation, opened, _⟩ := ok_of_bind written
  exact ⟨relation, Select.opening_source opened⟩

theorem acceptable_iff (create : Create) :
    (∃ text, create.text = .ok text) ↔ create.Acceptable := by
  rw [written_iff, metadata_ok_iff]
  constructor
  · rintro ⟨faultless, named, checked, ⟨partitions, replicas⟩, content⟩
    refine ⟨faultless, named, partitions, replicas, ?_⟩
    rcases content with ⟨sourceless, present, columns⟩ | ⟨query, sourced, noColumns, body,
        bodyWritten⟩
    · obtain ⟨columnsNamed, onePrimary⟩ := (columnTexts_ok_iff create _ none).1 columns
      exact .inl ⟨sourceless, present, columnsNamed, onePrimary⟩
    · obtain ⟨relation, reads⟩ := source_of_bodyText bodyWritten
      have allowed := checked query sourced
      rcases sourceFault_or create query relation with ⟨error, fault⟩ | ⟨kind, rules⟩
      · rw [checkSource_fault reads fault] at allowed
        cases allowed
      · obtain ⟨resolved, stream, table, unwindowed⟩ := rules
        exact .inr ⟨query, relation, kind, sourced, noColumns, reads, resolved, stream, table,
          unwindowed, body, bodyWritten⟩
  · rintro ⟨faultless, named, partitions, replicas, content⟩
    refine ⟨faultless, named, ?_, ⟨partitions, replicas⟩, ?_⟩
    · intro query sourced
      rcases content with ⟨sourceless, _⟩ | ⟨other, relation, kind, given, _, filled⟩
      · rw [sourceless] at sourced
        cases sourced
      · rw [given] at sourced
        cases sourced
        exact checkSource_filledBy filled
    · rcases content with ⟨sourceless, defined⟩ | ⟨query, relation, kind, given, noColumns, filled⟩
      · have columns := (columnTexts_ok_iff create _ none).2 ⟨defined.named, defined.onePrimary⟩
        exact .inl ⟨sourceless, defined.present, columns⟩
      · exact .inr ⟨query, given, noColumns, filled.written⟩

/-- A creation has a text exactly when it is acceptable. Rules on its source that are broken give
the error of the first of them. -/
theorem creation_accepted (create : Create) :
    ((∃ text, create.text = .ok text) ↔ create.Acceptable) ∧
      ∀ {query : Select} {relation : Relation} {error : StatementError},
        create.fault = none → isBlankText create.name = false → create.source = some query →
        query.source = some relation → create.SourceFault query relation error →
        create.text = .error error := by
  constructor
  · exact create.acceptable_iff
  · intro query relation error faultless named sourced reads fault
    have refused := checkSource_fault reads fault
    simp [text, faultless, named, sourced, refused, bind, Except.bind]

/-- A table from a windowed query without aggregates, whose source the registry of the creation
knows as a stream and that of the query as a table. -/
def windowedCopy : Select :=
  { Select.empty with
    registry := some (Registry.empty.set ((Schema.empty "orders").withKind .table))
    columns := [.field ⟨none, "id", none⟩]
    source := some ⟨"orders", none, none⟩
    window := some ⟨.tumbling ⟨1, .hours⟩, none, none⟩ }

def copiedTable : Create :=
  { (start .table "copies").fillFrom windowedCopy with
    registry := some (Registry.empty.set ((Schema.empty "orders").withKind .stream)) }

theorem copied_table_refused :
    ¬ copiedTable.Acceptable ∧
      copiedTable.SourceFault windowedCopy ⟨"orders", none, none⟩
        (.tableFromStream "copies" "orders") ∧
      copiedTable.text = .error (.tableFromStream "copies" "orders") := by
  have resolved : copiedTable.SourceKind windowedCopy ⟨"orders", none, none⟩ .stream :=
    .registered rfl rfl rfl rfl
  have plain : ¬ windowedCopy.Aggregates := by
    rw [← Select.isAggregated_iff]
    decide
  have fault : copiedTable.SourceFault windowedCopy ⟨"orders", none, none⟩
      (.tableFromStream "copies" "orders") := .tableFromStream rfl resolved plain
  have refused := (creation_accepted copiedTable).2 rfl (by decide) rfl rfl fault
  refine ⟨?_, fault, refused⟩
  intro acceptable
  obtain ⟨text, written⟩ := (creation_accepted copiedTable).1.2 acceptable
  rw [refused] at written
  cases written

end Create

end StreamQuery
