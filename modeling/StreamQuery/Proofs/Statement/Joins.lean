import StreamQuery.Proofs.Statement.BadNode
/-!
# Checked joins

A join is good when both fields of its condition stand for registered columns of one scalar type.
A query that is put together call by call looks at each join once, when it is added, in the scope of
the joins before it. The query that comes out has a text only if all of its joins were found good,
and otherwise it fails as the first bad one did.
-/

namespace StreamQuery

open Text

/-- A qualifier is the alias of a relation or its name, in whatever case. -/
def Relation.IsCalled (relation : Relation) (qualifier : String) : Prop :=
  (∃ name, relation.aliasName = some name ∧ sameWord name qualifier = true) ∨
    sameWord relation.name qualifier = true

theorem Relation.answersTo_iff (relation : Relation) (qualifier : String) :
    relation.answersTo qualifier = true ↔ relation.IsCalled qualifier := by
  simp only [answersTo, IsCalled, Bool.or_eq_true, Option.any_eq_true]

namespace Join

/-! ### Fields of a condition -/

/-- The relation that a field belongs to: that of its side without a qualifier, and otherwise the
first in scope that the qualifier names. -/
inductive Owner (scope : List Relation) (standard : Relation) :
    Option String → Relation → Prop where
  | standard : Owner scope standard none standard
  | named {qualifier relation earlier later} (among : scope = earlier ++ relation :: later)
      (called : relation.IsCalled qualifier)
      (first : ∀ other ∈ earlier, ¬ other.IsCalled qualifier) :
      Owner scope standard (some qualifier) relation

/-- A field stands for a registered column of its relation. -/
inductive StandsFor (registry : Registry) (scope : List Relation) (standard : Relation)
    (field : FieldRef) (column : Column) : Prop where
  | column {relation schema} (owner : Owner scope standard field.qualifier relation)
      (registered : registry.get? relation.name = some schema)
      (found : schema.get? field.column = some column)

/-- Why a field stands for no column. -/
inductive Unresolved (registry : Registry) (scope : List Relation) (standard : Relation)
    (field : FieldRef) : StatementError → Prop where
  | qualifier {qualifier} (given : field.qualifier = some qualifier)
      (unknown : ∀ relation ∈ scope, ¬ relation.IsCalled qualifier) :
      Unresolved registry scope standard field (.relationNotFound qualifier)
  | relation {relation} (owner : Owner scope standard field.qualifier relation)
      (unknown : registry.get? relation.name = none) :
      Unresolved registry scope standard field (.relationNotFound relation.name)
  | column {relation schema} (owner : Owner scope standard field.qualifier relation)
      (registered : registry.get? relation.name = some schema)
      (unknown : schema.get? field.column = none) :
      Unresolved registry scope standard field (.fieldNotFound field.column relation.name)

section Fields

variable {registry : Registry} {scope : List Relation} {standard : Relation} {field : FieldRef}

theorem Owner.found {relation : Relation} (owner : Owner scope standard field.qualifier relation) :
    relationOf scope standard field = .ok relation.name := by
  unfold relationOf
  generalize field.qualifier = given at owner
  cases owner with
  | standard => rfl
  | @named qualifier relation earlier later among called first =>
      have found : scope.find? (Relation.answersTo qualifier) = some relation := by
        rw [List.find?_eq_some_iff_append]
        refine ⟨(relation.answersTo_iff qualifier).2 called, earlier, later, among, ?_⟩
        intro other member
        rw [Bool.not_eq_true', ← Bool.not_eq_true, other.answersTo_iff]
        exact first other member
      simp only [found]

/-- A field has a relation, or a qualifier that names none. -/
theorem owner_or_unknown (scope : List Relation) (standard : Relation) (field : FieldRef) :
    (∃ relation, Owner scope standard field.qualifier relation) ∨
      ∃ qualifier, field.qualifier = some qualifier ∧
        ∀ relation ∈ scope, ¬ relation.IsCalled qualifier := by
  cases field.qualifier with
  | none => exact .inl ⟨standard, .standard⟩
  | some qualifier =>
      cases found : scope.find? (Relation.answersTo qualifier) with
      | none =>
          refine .inr ⟨qualifier, rfl, fun relation member => ?_⟩
          rw [← relation.answersTo_iff]
          exact List.find?_eq_none.1 found relation member
      | some relation =>
          obtain ⟨called, earlier, later, among, first⟩ := List.find?_eq_some_iff_append.1 found
          refine .inl ⟨relation, .named among ((relation.answersTo_iff qualifier).1 called) ?_⟩
          intro other member
          rw [← other.answersTo_iff, Bool.not_eq_true, ← Bool.not_eq_true']
          exact first other member

theorem StandsFor.resolved {column : Column}
    (stands : StandsFor registry scope standard field column) :
    resolveField registry scope standard field = .ok column := by
  obtain ⟨owner, registered, found⟩ := stands
  simp only [resolveField, owner.found, bind, Except.bind, Registry.resolve, registered, found]

theorem Unresolved.refused {error : StatementError}
    (unresolved : Unresolved registry scope standard field error) :
    resolveField registry scope standard field = .error error := by
  cases unresolved with
  | @qualifier qualifier given unknown =>
      have none : scope.find? (Relation.answersTo qualifier) = none := by
        rw [List.find?_eq_none]
        intro relation member
        rw [relation.answersTo_iff]
        exact unknown relation member
      simp only [resolveField, relationOf, given, none, bind, Except.bind]
  | relation owner unknown =>
      simp only [resolveField, owner.found, bind, Except.bind, Registry.resolve, unknown]
  | column owner registered unknown =>
      simp only [resolveField, owner.found, bind, Except.bind, Registry.resolve, registered,
        unknown]

/-- A field stands for a column, or there is a reason why it does not. -/
theorem stands_or_unresolved (registry : Registry) (scope : List Relation) (standard : Relation)
    (field : FieldRef) :
    (∃ column, StandsFor registry scope standard field column) ∨
      ∃ error, Unresolved registry scope standard field error := by
  rcases owner_or_unknown scope standard field with ⟨relation, owner⟩ | ⟨qualifier, given, unknown⟩
  · cases registered : registry.get? relation.name with
    | none => exact .inr ⟨_, .relation owner registered⟩
    | some schema =>
        cases found : schema.get? field.column with
        | none => exact .inr ⟨_, .column owner registered found⟩
        | some column => exact .inl ⟨column, .column owner registered found⟩
  · exact .inr ⟨_, .qualifier given unknown⟩

end Fields

/-! ### One join -/

/-- The relations that a qualifier of a join can name: the source, those of earlier joins and its
own. -/
def scope (source : Relation) (previous : List Join) (join : Join) : List Relation :=
  source :: (previous.map Join.relation ++ [join.relation])

/-- Both fields of the condition stand for registered columns of one scalar type. -/
inductive Good (registry : Registry) (source : Relation) (previous : List Join) (join : Join) :
    Prop where
  | fields {querySide joinSide left right} (condition : join.condition = some (querySide, joinSide))
      (leftStands : StandsFor registry (join.scope source previous) source querySide left)
      (rightStands : StandsFor registry (join.scope source previous) join.relation joinSide right)
      (scalar : left.type.isContainer = false) (same : left.type = right.type)

/-- Why a join is not good; of several reasons the first counts. -/
inductive Fault (registry : Registry) (source : Relation) (previous : List Join) (join : Join) :
    StatementError → Prop where
  | noCondition (missing : join.condition = none) :
      Fault registry source previous join (.invalidOperand "JOIN" .missingCondition)
  | querySide {querySide joinSide error} (condition : join.condition = some (querySide, joinSide))
      (unresolved : Unresolved registry (join.scope source previous) source querySide error) :
      Fault registry source previous join error
  | joinSide {querySide joinSide left error}
      (condition : join.condition = some (querySide, joinSide))
      (leftStands : StandsFor registry (join.scope source previous) source querySide left)
      (unresolved : Unresolved registry (join.scope source previous) join.relation joinSide error) :
      Fault registry source previous join error
  | leftContainer {querySide joinSide left right}
      (condition : join.condition = some (querySide, joinSide))
      (leftStands : StandsFor registry (join.scope source previous) source querySide left)
      (rightStands : StandsFor registry (join.scope source previous) join.relation joinSide right)
      (container : left.type.isContainer = true) :
      Fault registry source previous join (.notJoinable (columnName left) left.type)
  | rightContainer {querySide joinSide left right}
      (condition : join.condition = some (querySide, joinSide))
      (leftStands : StandsFor registry (join.scope source previous) source querySide left)
      (rightStands : StandsFor registry (join.scope source previous) join.relation joinSide right)
      (scalar : left.type.isContainer = false) (container : right.type.isContainer = true) :
      Fault registry source previous join (.notJoinable (columnName right) right.type)
  | types {querySide joinSide left right}
      (condition : join.condition = some (querySide, joinSide))
      (leftStands : StandsFor registry (join.scope source previous) source querySide left)
      (rightStands : StandsFor registry (join.scope source previous) join.relation joinSide right)
      (leftScalar : left.type.isContainer = false) (rightScalar : right.type.isContainer = false)
      (differ : left.type ≠ right.type) :
      Fault registry source previous join
        (.incompatibleJoin (columnName left) left.type (columnName right) right.type)

section Validation

variable {registry : Registry} {source : Relation} {previous : List Join} {join : Join}

/-- The check of a join whose condition stands for two columns. -/
theorem validate_columns {querySide joinSide : FieldRef} {left right : Column}
    (condition : join.condition = some (querySide, joinSide))
    (leftStands : StandsFor registry (join.scope source previous) source querySide left)
    (rightStands : StandsFor registry (join.scope source previous) join.relation joinSide right) :
    join.validate registry source previous =
      if left.type.isContainer then .error (.notJoinable (columnName left) left.type)
      else if right.type.isContainer then .error (.notJoinable (columnName right) right.type)
      else if left.type = right.type then .ok ()
      else .error
        (.incompatibleJoin (columnName left) left.type (columnName right) right.type) := by
  have leftFound := leftStands.resolved
  have rightFound := rightStands.resolved
  unfold scope at leftFound rightFound
  simp only [validate, conditionOf, condition, bind, Except.bind, leftFound, rightFound,
    checkJoinable, ColumnType.isJoinable, compareColumn?, Bool.not_eq_true']
  cases left.type.isContainer <;> cases right.type.isContainer <;>
    by_cases same : left.type = right.type <;> simp [same]

theorem Good.validated (good : join.Good registry source previous) :
    join.validate registry source previous = .ok () := by
  obtain ⟨condition, leftStands, rightStands, scalar, same⟩ := good
  rw [validate_columns condition leftStands rightStands]
  simp [← same, scalar]

theorem Fault.refused {error : StatementError} (fault : join.Fault registry source previous error) :
    join.validate registry source previous = .error error := by
  cases fault with
  | noCondition missing => simp [validate, conditionOf, missing, bind, Except.bind]
  | querySide condition unresolved =>
      have failed := unresolved.refused
      unfold scope at failed
      simp only [validate, conditionOf, condition, bind, Except.bind, failed]
  | joinSide condition leftStands unresolved =>
      have found := leftStands.resolved
      have failed := unresolved.refused
      unfold scope at found failed
      simp only [validate, conditionOf, condition, bind, Except.bind, found, failed]
  | leftContainer condition leftStands rightStands container =>
      rw [validate_columns condition leftStands rightStands, if_pos container]
  | rightContainer condition leftStands rightStands scalar container =>
      rw [validate_columns condition leftStands rightStands]
      simp [scalar, container]
  | types condition leftStands rightStands leftScalar rightScalar differ =>
      rw [validate_columns condition leftStands rightStands]
      simp [leftScalar, rightScalar, differ]

/-- A join is good or has a fault. -/
theorem good_or_fault (registry : Registry) (source : Relation) (previous : List Join)
    (join : Join) :
    join.Good registry source previous ∨ ∃ error, join.Fault registry source previous error := by
  cases condition : join.condition with
  | none => exact .inr ⟨_, .noCondition condition⟩
  | some sides =>
      obtain ⟨querySide, joinSide⟩ := sides
      rcases stands_or_unresolved registry (join.scope source previous) source querySide with
        ⟨left, leftStands⟩ | ⟨error, unresolved⟩
      · rcases stands_or_unresolved registry (join.scope source previous) join.relation joinSide
          with ⟨right, rightStands⟩ | ⟨error, unresolved⟩
        · cases leftKind : left.type.isContainer with
          | true => exact .inr ⟨_, .leftContainer condition leftStands rightStands leftKind⟩
          | false =>
              cases rightKind : right.type.isContainer with
              | true =>
                  exact .inr
                    ⟨_, .rightContainer condition leftStands rightStands leftKind rightKind⟩
              | false =>
                  by_cases same : left.type = right.type
                  · exact .inl (.fields condition leftStands rightStands leftKind same)
                  · exact .inr
                      ⟨_, .types condition leftStands rightStands leftKind rightKind same⟩
        · exact .inr ⟨_, .joinSide condition leftStands unresolved⟩
      · exact .inr ⟨_, .querySide condition unresolved⟩

end Validation

/-- Every join of a list is good in the scope of those before it. -/
def AllGood (registry : Registry) (source : Relation) (joins : List Join) : Prop :=
  ∀ previous join later, joins = previous ++ join :: later → join.Good registry source previous

theorem allGood_nil (registry : Registry) (source : Relation) : AllGood registry source [] := by
  intro previous join later same
  simp at same

theorem AllGood.concat {registry : Registry} {source : Relation} {joins : List Join} {join : Join}
    (good : AllGood registry source joins) (last : join.Good registry source joins) :
    AllGood registry source (joins ++ [join]) := by
  intro previous other later same
  rcases List.eq_nil_or_concat later with rfl | ⟨front, final, rfl⟩
  · obtain ⟨rfl, here⟩ := List.append_inj' same rfl
    cases here
    exact last
  · rw [List.concat_eq_append, ← List.cons_append, ← List.append_assoc] at same
    exact good _ _ _ (List.append_inj' same rfl).1

/-- The first join of a list that is not good, with its fault. -/
inductive FirstFault (registry : Registry) (source : Relation) (joins : List Join)
    (error : StatementError) : Prop where
  | join {previous join later} (among : joins = previous ++ join :: later)
      (good : AllGood registry source previous)
      (fault : join.Fault registry source previous error)

end Join

/-! ### Putting a query together -/

/-- One call by which a query is put together. -/
inductive Select.Call where
  | attach (registry : Registry)
  | nameQuery (name : String) (query : Select)
  | addColumns (columns : List Expr)
  | readFrom (relation : Relation)
  | addJoin (join : Join)
  | setWindow (window : Window)
  | addFilter (condition : Expr)
  | setGroupBy (keys : List Expr)
  | addHaving (condition : Expr)
  | setPartitionBy (keys : List Expr)
  | setOrderBy (keys : List (Expr × SortOrder))
  | push
  | setLimit (limit : Nat)

namespace Select

def Call.run : Call → Select → Select
  | .attach registry => withRegistry registry
  | .nameQuery name query => withQuery name query
  | .addColumns columns => Select.addColumns columns
  | .readFrom relation => Select.readFrom relation
  | .addJoin join => Select.addJoin join
  | .setWindow window => Select.setWindow window
  | .addFilter condition => Select.addFilter condition
  | .setGroupBy keys => Select.setGroupBy keys
  | .addHaving condition => Select.addHaving condition
  | .setPartitionBy keys => Select.setPartitionBy keys
  | .setOrderBy keys => Select.setOrderBy keys
  | .push => pushing
  | .setLimit limit => Select.setLimit limit

/-- A query after more calls, the first one first. -/
def runAll (calls : List Call) (select : Select) : Select :=
  calls.foldl (fun select call => call.run select) select

/-- The query that some calls put together from nothing. -/
def built (calls : List Call) : Select :=
  runAll calls empty

def Call.join? : Call → Option Join
  | .addJoin join => some join
  | _ => none

def Call.registry? : Call → Option Registry
  | .attach registry => some registry
  | _ => none

def Call.source? : Call → Option Relation
  | .readFrom relation => some relation
  | _ => none

/-- The joins that some calls ask for. -/
def joinsOf (calls : List Call) : List Join :=
  calls.filterMap Call.join?

/-- The registry is attached and the source is set before the first join, and neither is touched
again. -/
inductive Prepared (registry : Registry) (source : Relation) : List Call → Prop where
  | calls {opening rest} (joinless : joinsOf opening = [])
      (attached : (opening.filterMap Call.registry?).getLast? = some registry)
      (sourced : (opening.filterMap Call.source?).getLast? = some source)
      (kept : rest.filterMap Call.registry? = []) (steady : rest.filterMap Call.source? = []) :
      Prepared registry source (opening ++ rest)

/-! ### What calls leave -/

theorem runAll_append (first second : List Call) (select : Select) :
    runAll (first ++ second) select = runAll second (runAll first select) :=
  List.foldl_append

theorem addJoin_keeps (join : Join) (select : Select) :
    (select.addJoin join).registry = select.registry ∧
      (select.addJoin join).source = select.source := by
  unfold addJoin
  split
  · exact ⟨rfl, rfl⟩
  · split <;> exact ⟨rfl, rfl⟩

theorem run_registry (call : Call) (select : Select) :
    (call.run select).registry = call.registry?.or select.registry := by
  cases call with
  | addJoin join => exact (addJoin_keeps join select).1
  | _ => rfl

theorem run_source (call : Call) (select : Select) :
    (call.run select).source = call.source?.or select.source := by
  cases call with
  | addJoin join => exact (addJoin_keeps join select).2
  | _ => rfl

/-- A call that adds no join leaves the joins and the fault as they are. -/
theorem run_joinless {call : Call} (joinless : call.join? = none) (select : Select) :
    (call.run select).joins = select.joins ∧ (call.run select).fault = select.fault := by
  cases call with
  | addJoin join => cases joinless
  | _ => exact ⟨rfl, rfl⟩

/-- A fault stays whatever is called. -/
theorem runAll_fault (calls : List Call) {select : Select} {error : StatementError}
    (fault : select.fault = some error) : (runAll calls select).fault = some error := by
  induction calls generalizing select with
  | nil => exact fault
  | cons call rest induction =>
      apply induction
      cases added : call.join? with
      | none => rw [(run_joinless added select).2, fault]
      | some join =>
          cases call <;> cases added
          simp only [Call.run, addJoin, fault]

/-- A field that a call either sets or leaves alone is what the last call set it to. -/
theorem runAll_last {value : Type} {set? : Call → Option value} {field : Select → Option value}
    (step : ∀ call select, field (call.run select) = (set? call).or (field select))
    (calls : List Call) (select : Select) :
    field (runAll calls select) = (calls.filterMap set?).getLast?.or (field select) := by
  induction calls generalizing select with
  | nil => rfl
  | cons call rest induction =>
      rw [runAll, List.foldl_cons, ← runAll, induction, step, List.filterMap_cons]
      cases set? call with
      | none => rfl
      | some first =>
          generalize rest.filterMap set? = later
          rw [List.getLast?_cons, Option.some_or, Option.some_or]
          cases later.getLast? <;> rfl

/-- A good join is added. -/
theorem addJoin_good {registry : Registry} {source : Relation} {join : Join} {select : Select}
    (attached : select.registry = some registry) (sourced : select.source = some source)
    (faultless : select.fault = none) (good : join.Good registry source select.joins) :
    select.addJoin join = { select with joins := select.joins ++ [join] } := by
  simp only [addJoin, joinFault?, faultless, sourced, attached, good.validated]

/-- A join with a fault leaves the fault behind. -/
theorem addJoin_fault {registry : Registry} {source : Relation} {join : Join} {select : Select}
    {error : StatementError} (attached : select.registry = some registry)
    (sourced : select.source = some source) (faultless : select.fault = none)
    (fault : join.Fault registry source select.joins error) :
    select.addJoin join = { select with fault := some error } := by
  simp only [addJoin, joinFault?, faultless, sourced, attached, fault.refused]

/-- Under one registry and one source, calls either add all of their joins, which are good, or
leave the fault of the first one that is not. -/
theorem runAll_joins {registry : Registry} {source : Relation} {calls : List Call}
    {select : Select} (kept : calls.filterMap Call.registry? = [])
    (steady : calls.filterMap Call.source? = []) (attached : select.registry = some registry)
    (sourced : select.source = some source) (faultless : select.fault = none)
    (good : Join.AllGood registry source select.joins) :
    ((runAll calls select).fault = none ∧
        (runAll calls select).joins = select.joins ++ joinsOf calls ∧
        Join.AllGood registry source (select.joins ++ joinsOf calls)) ∨
      ∃ error, (runAll calls select).fault = some error ∧
        Join.FirstFault registry source (select.joins ++ joinsOf calls) error := by
  induction calls generalizing select with
  | nil =>
      have none_added : select.joins ++ joinsOf [] = select.joins := List.append_nil _
      rw [none_added]
      exact .inl ⟨faultless, rfl, good⟩
  | cons call rest induction =>
      have unattached : call.registry? = none :=
        List.filterMap_eq_nil_iff.1 kept call List.mem_cons_self
      have unsourced : call.source? = none :=
        List.filterMap_eq_nil_iff.1 steady call List.mem_cons_self
      have laterKept : rest.filterMap Call.registry? = [] := by
        rwa [List.filterMap_cons, unattached] at kept
      have laterSteady : rest.filterMap Call.source? = [] := by
        rwa [List.filterMap_cons, unsourced] at steady
      have nextAttached : (call.run select).registry = some registry := by
        rw [run_registry, unattached, attached, Option.none_or]
      have nextSourced : (call.run select).source = some source := by
        rw [run_source, unsourced, sourced, Option.none_or]
      cases added : call.join? with
      | none =>
          obtain ⟨sameJoins, sameFault⟩ := run_joinless added select
          have same : joinsOf (call :: rest) = joinsOf rest := by
            rw [joinsOf, List.filterMap_cons, added, joinsOf]
          have next := induction laterKept laterSteady nextAttached nextSourced
            (sameFault.trans faultless) (sameJoins ▸ good)
          rw [sameJoins] at next
          rw [same]
          exact next
      | some join =>
          have same : joinsOf (call :: rest) = join :: joinsOf rest := by
            rw [joinsOf, List.filterMap_cons, added, joinsOf]
          have called : call.run select = select.addJoin join := by
            cases call <;> cases added
            rfl
          rw [same, runAll, List.foldl_cons, ← runAll, called]
          rw [called] at nextAttached nextSourced
          rcases Join.good_or_fault registry source select.joins join with here | ⟨error, fault⟩
          · have next := addJoin_good attached sourced faultless here
            rw [next] at nextAttached nextSourced ⊢
            have rest_run := induction laterKept laterSteady nextAttached nextSourced faultless
              (good.concat here)
            rwa [List.append_assoc, List.singleton_append] at rest_run
          · have next := addJoin_fault attached sourced faultless fault
            rw [next]
            exact .inr ⟨error, runAll_fault rest rfl, .join rfl good fault⟩

theorem runAll_joinless {calls : List Call} (joinless : joinsOf calls = []) (select : Select) :
    (runAll calls select).joins = select.joins ∧ (runAll calls select).fault = select.fault := by
  induction calls generalizing select with
  | nil => exact ⟨rfl, rfl⟩
  | cons call rest induction =>
      have here : call.join? = none :=
        List.filterMap_eq_nil_iff.1 joinless call List.mem_cons_self
      have later : joinsOf rest = [] := by
        rwa [joinsOf, List.filterMap_cons, here] at joinless
      obtain ⟨sameJoins, sameFault⟩ := run_joinless here select
      obtain ⟨joins, fault⟩ := induction later (call.run select)
      exact ⟨joins.trans sameJoins, fault.trans sameFault⟩

/-- A query that is put together under one registry and one source has all of its joins, which are
good, or the fault of the first one that is not. -/
theorem built_joins {registry : Registry} {source : Relation} {calls : List Call}
    (prepared : Prepared registry source calls) :
    ((built calls).fault = none ∧ (built calls).joins = joinsOf calls ∧
        Join.AllGood registry source (joinsOf calls)) ∨
      ∃ error, (built calls).fault = some error ∧
        Join.FirstFault registry source (joinsOf calls) error := by
  obtain @⟨opening, rest, joinless, attached, sourced, kept, steady⟩ := prepared
  obtain ⟨noJoins, faultless⟩ := runAll_joinless joinless empty
  have openAttached : (runAll opening empty).registry = some registry := by
    rw [runAll_last run_registry, attached, Option.some_or]
  have openSourced : (runAll opening empty).source = some source := by
    rw [runAll_last run_source, sourced, Option.some_or]
  have asked : joinsOf (opening ++ rest) = joinsOf rest := by
    have both : joinsOf (opening ++ rest) = joinsOf opening ++ joinsOf rest :=
      List.filterMap_append
    rw [both, joinless, List.nil_append]
  have ran := runAll_joins kept steady openAttached openSourced faultless
    (noJoins ▸ Join.allGood_nil registry source)
  rw [noJoins] at ran
  rw [built, runAll_append, asked]
  exact ran

theorem text_fault {select : Select} {error : StatementError} (fault : select.fault = some error) :
    select.bodyText = .error error ∧ select.text = .error error := by
  have body : select.bodyText = .error error := by
    rw [bodyText_eq, opening, fault]
    rfl
  exact ⟨body, by rw [text, body]; rfl⟩

/-- Whatever text the query comes into, by itself or deep in a statement, all of its joins were
found good; and with a join that is not good, the query fails as the first such join did, whatever
is called after it. -/
theorem joins_checked {registry : Registry} {source : Relation} {calls : List Call}
    (prepared : Prepared registry source calls) :
    (∀ whole : Node, whole.HasText → whole.Holds (.query (built calls)) →
        (built calls).joins = joinsOf calls ∧
          Join.AllGood registry source (built calls).joins) ∧
      (¬ Join.AllGood registry source (joinsOf calls) →
        ∃ error, Join.FirstFault registry source (joinsOf calls) error ∧
          ∀ later, (built (calls ++ later)).text = .error error) := by
  rcases built_joins prepared with ⟨_, all, good⟩ | ⟨error, fault, first⟩
  · exact ⟨fun _ _ _ => ⟨all, all ▸ good⟩, fun bad => absurd good bad⟩
  · constructor
    · intro whole written inside
      obtain ⟨text, bodyWritten⟩ := Node.hasText_part written inside
      have failed : (built calls).bodyText = .error error := (text_fault fault).1
      cases failed.symm.trans bodyWritten
    · intro _
      refine ⟨error, first, fun later => ?_⟩
      have kept : (built (calls ++ later)).fault = some error := by
        rw [built, runAll_append]
        exact runAll_fault later fault
      exact (text_fault kept).2

/-- Orders of a user, and the users. -/
def shop : Registry :=
  let orders : List Column := [.plain "id" .bigint, .plain "user_id" .bigint]
  let users : List Column := [.plain "id" .bigint, .plain "name" .string]
  .ofList ([("orders", orders), ("users", users)].filterMap fun relation =>
    (Schema.ofColumns relation.1 relation.2).toOption)

/-- The orders under the name of the users. -/
def shopOrders : Relation :=
  ⟨"orders", some "users", some .stream⟩

/-- A query of orders that asks for the users whose field is the user of the order. -/
def userOrders (field : FieldRef) : List Call :=
  let users : Join :=
    ⟨.inner, ⟨"Users", none, none⟩, some (⟨some "USERS", "user_id", none⟩, field), none⟩
  [.attach shop, .readFrom shopOrders, .addColumns [.field ⟨none, "name", none⟩]] ++
    [.addJoin users, .setLimit 5]

/-- A field without a qualifier is one of the users, but their name is the alias of the orders,
where no column is called so. -/
theorem userOrders_checked :
    (built (userOrders ⟨none, "id", none⟩)).text =
        .ok "SELECT name FROM orders users INNER JOIN Users ON USERS.user_id = id LIMIT 5;" ∧
      Join.AllGood shop shopOrders (built (userOrders ⟨none, "id", none⟩)).joins ∧
      ∀ later, (built (userOrders ⟨some "users", "name", none⟩ ++ later)).text =
        .error (.fieldNotFound "name" "orders") := by
  have prepared (field : FieldRef) : Prepared shop shopOrders (userOrders field) :=
    .calls rfl rfl rfl rfl rfl
  have good := joins_checked (prepared ⟨none, "id", none⟩)
  have bad := joins_checked (prepared ⟨some "users", "name", none⟩)
  have refused :
      ¬ Join.AllGood shop shopOrders (joinsOf (userOrders ⟨some "users", "name", none⟩)) := by
    intro all
    have accepted := (all [] _ [] rfl).validated
    cases accepted
  obtain ⟨error, _, fails⟩ := bad.2 refused
  have same : StatementError.fieldNotFound "name" "orders" = error :=
    Except.error.inj (fails [])
  rw [same]
  exact ⟨rfl, (good.1 (.query _) ⟨_, rfl⟩ .refl).2, fails⟩

end Select

end StreamQuery
