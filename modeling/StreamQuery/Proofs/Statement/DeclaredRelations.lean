import StreamQuery.Proofs.Statement.Creation
/-!
# Creating declared relations

The settings of a client are checked when it is opened, and the properties of a relation when it is
created. The two checks agree on names and on numbers of partitions; the number of replicas is looked
at by the second one only.
-/

namespace StreamQuery

open Text

namespace Settings

/-- What the check of the settings asks of a declared relation. -/
structure Declarable (relation : RelationSettings) : Prop where
  named : isBlankText relation.name = false
  partitions : relation.partitions ≠ some 0

theorem validateRelation_iff (relation : RelationSettings) :
    validateRelation relation = .ok () ↔ Declarable relation := by
  unfold validateRelation
  split
  · next blank =>
      constructor
      · intro valid
        cases valid
      · intro declarable
        rw [declarable.named] at blank
        cases blank
  · next visible =>
      have named : isBlankText relation.name = false := Bool.eq_false_iff.2 visible
      split
      · next empty =>
          constructor
          · intro valid
            cases valid
          · intro declarable
            exact absurd empty declarable.partitions
      · next some => exact ⟨fun _ => ⟨named, some⟩, fun _ => rfl⟩

theorem validateRelations_iff (relations : List RelationSettings) :
    relations.forM validateRelation = .ok () ↔ ∀ relation ∈ relations, Declarable relation := by
  induction relations with
  | nil => exact ⟨fun _ => List.forall_mem_nil _, fun _ => rfl⟩
  | cons first rest induction =>
      rw [List.forall_mem_cons, ← induction, ← validateRelation_iff]
      constructor
      · intro valid
        obtain ⟨_, one, others⟩ := ok_of_bind valid
        exact ⟨one, others⟩
      · rintro ⟨one, others⟩
        change (validateRelation first >>= fun _ => rest.forM validateRelation) = .ok ()
        rw [one]
        exact others

theorem declarable_of_validate {settings : Settings} (valid : settings.validate = .ok ()) :
    ∀ relation ∈ settings.relations, Declarable relation := by
  unfold validate at valid
  split at valid
  · cases valid
  split at valid
  · cases valid
  split at valid
  · cases valid
  split at valid
  · cases valid
  exact (validateRelations_iff _).1 valid

end Settings

namespace Create

theorem ofSettings_acceptable_iff {relation : RelationSettings}
    (declarable : Settings.Declarable relation) {columns : List Column}
    (defined : DefinedBy columns) :
    ((ofSettings relation).addColumns columns).Acceptable ↔ relation.replicas ≠ some 0 := by
  constructor
  · intro acceptable none
    exact Nat.lt_irrefl 0 (acceptable.replicas 0 none)
  · intro some
    refine ⟨rfl, declarable.named, ?_, ?_, .inl ⟨rfl, defined⟩⟩
    · intro count given
      apply Nat.pos_of_ne_zero
      rintro rfl
      exact declarable.partitions given
    · intro count given
      apply Nat.pos_of_ne_zero
      rintro rfl
      exact some given

/-- A property with a value that is refused decides the error where the properties in front of it
have texts. -/
theorem metadata_replicas {metadata : Metadata} (partitions : metadata.partitions ≠ some 0)
    (replicas : metadata.replicas = some 0) :
    metadata.text = .error (.invalidParameter "REPLICAS" 0) := by
  have quoted (name : String) (value : Option String) :
      ∃ texts, Select.optionalText (Metadata.quoted name) value = .ok texts :=
    (optionalText_ok_iff _ _).2 fun item _ => ⟨_, rfl⟩
  obtain ⟨topic, topicWritten⟩ := quoted "KAFKA_TOPIC" metadata.topic
  obtain ⟨keyFormat, keyWritten⟩ := quoted "KEY_FORMAT" metadata.keyFormat
  obtain ⟨valueFormat, valueWritten⟩ := quoted "VALUE_FORMAT" metadata.valueFormat
  have counted : ∃ texts, Select.optionalText (Metadata.positive "PARTITIONS")
      metadata.partitions = .ok texts := by
    rw [optionalText_ok_iff]
    intro count given
    rw [positive_ok_iff]
    apply Nat.pos_of_ne_zero
    rintro rfl
    exact partitions given
  obtain ⟨partitionTexts, partitionsWritten⟩ := counted
  have refused : metadata.propertyTexts = .error (.invalidParameter "REPLICAS" 0) := by
    unfold Metadata.propertyTexts
    rw [topicWritten, keyWritten, valueWritten, partitionsWritten, replicas]
    rfl
  rw [Metadata.text, refused]
  rfl

/-- Without a source, the properties of a creation come right behind its name. -/
theorem text_of_metadata {create : Create} {error : StatementError} (faultless : create.fault = none)
    (named : isBlankText create.name = false) (sourceless : create.source = none)
    (refused : create.metadata.text = .error error) : create.text = .error error := by
  simp [text, faultless, named, sourceless, refused, bind, Except.bind]

/-- A relation of settings that hold, with columns of visible names of which one at most is primary,
has a creation unless it is declared with no replicas; then the creation fails, and the settings do
not. -/
theorem declared_created {settings : Settings} (valid : settings.validate = .ok ())
    {relation : RelationSettings} (declared : relation ∈ settings.relations)
    {columns : List Column} (defined : DefinedBy columns) :
    ((∃ text, ((ofSettings relation).addColumns columns).text = .ok text) ↔
        relation.replicas ≠ some 0) ∧
      (relation.replicas = some 0 →
        ((ofSettings relation).addColumns columns).text =
          .error (.invalidParameter "REPLICAS" 0)) := by
  have declarable := Settings.declarable_of_validate valid relation declared
  constructor
  · rw [acceptable_iff, ofSettings_acceptable_iff declarable defined]
  · intro none
    apply text_of_metadata rfl declarable.named rfl
    exact metadata_replicas declarable.partitions none

/-- A relation with every property set, and as many replicas as asked for. -/
def replicated (replicas : Nat) : RelationSettings :=
  ⟨"orders", .table, some "orders-v1", some 6, some replicas, some "JSON", some "KAFKA", some "at"⟩

def replicatedSettings (replicas : Nat) : Settings :=
  { Settings.default with relations := [replicated replicas] }

def orderColumns : List Column :=
  [{ Column.plain "id" .bigint with primary := true }, .plain "at" (.array .string)]

theorem orderColumns_defined : DefinedBy orderColumns :=
  ⟨List.cons_ne_nil _ _, by decide, by decide⟩

theorem replicated_created :
    (replicatedSettings 3).validate = .ok () ∧
      ∃ text, ((ofSettings (replicated 3)).addColumns orderColumns).text = .ok text := by
  have valid : (replicatedSettings 3).validate = .ok () := by decide
  exact ⟨valid, (declared_created valid List.mem_cons_self orderColumns_defined).1.2 (by decide)⟩

/-- Settings that hold, with a relation that cannot be created. -/
theorem unreplicated_refused :
    (replicatedSettings 0).validate = .ok () ∧
      replicated 0 ∈ (replicatedSettings 0).relations ∧ DefinedBy orderColumns ∧
      ((ofSettings (replicated 0)).addColumns orderColumns).text =
        .error (.invalidParameter "REPLICAS" 0) :=
  ⟨by decide, List.mem_cons_self, orderColumns_defined, by decide +kernel⟩

end Create

end StreamQuery
