import StreamQuery.Proofs.Statement.Joins
/-!
# Where aggregates may stand

Conditions on rows, group keys and partition keys hold no aggregate. The search for one goes through
the whole expression, so a query with a text has none in these clauses, and neither has any query
that is nested in it. And nothing else fails for the reason that an aggregate is in the wrong place.
-/

namespace StreamQuery

open Text

/-- An aggregate stands in the expression, at any depth. -/
def Expr.HasAggregate (expr : Expr) : Prop :=
  ∃ part, expr.Contains part ∧ part.isAggregate = true

/-- True of the faults that an aggregate in the wrong place has. -/
def OperandFault.blamesAggregate : OperandFault → Bool
  | belongsInHaving | aggregateNotAllowed => true
  | _ => false

def StatementError.blamesAggregate : StatementError → Bool
  | invalidOperand _ fault => fault.blamesAggregate
  | _ => false

/-- A step that never fails for an aggregate. -/
abbrev Blameless {α : Type} (step : Except StatementError α) : Prop :=
  FailsBy (fun error => error.blamesAggregate = false) step

/-! ### Expressions -/

theorem checkedText_blameless (value : Literal) : Blameless value.checkedText := by
  unfold Literal.checkedText
  split
  · exact .error rfl
  · exact .ok _

theorem reference_blameless (field : FieldRef) : Blameless field.operandText := by
  unfold FieldRef.operandText
  split
  · exact .error rfl
  · exact .ok _

theorem orderFault_blameless {operand : Operand} {fault : OperandFault}
    (found : operand.orderFault? = some fault) : fault.blamesAggregate = false := by
  unfold Operand.orderFault? at found
  split at found
  · split at found <;> cases found
    rfl
  · cases found

theorem rightFault_blameless {shown : String} {op : Comparator} {right : Operand}
    {fault : OperandFault} (found : op.rightFault? shown right = some fault) :
    fault.blamesAggregate = false := by
  unfold Comparator.rightFault? at found
  cases op with
  | greater | greaterOrEqual | less | lessOrEqual | between => exact orderFault_blameless found
  | isNull | isNotNull =>
      cases found
      rfl
  | isIn | isNotIn | like | equal | notEqual =>
      simp only at found
      split at found <;> cases found <;> rfl

theorem fault_blameless {shown : String} {op : Comparator} {right upper : Option Operand}
    {fault : OperandFault} (found : op.fault? shown right upper = some fault) :
    fault.blamesAggregate = false := by
  unfold Comparator.fault? at found
  split at found
  · split at found <;> cases found
    rfl
  · split at found
    · next suited =>
        cases found
        exact rightFault_blameless suited
    · split at found
      · split at found
        · cases found
          rfl
        · exact orderFault_blameless found
      · cases found

theorem arithmeticFault_blameless {right : Operand} {fault : OperandFault}
    (found : arithmeticFault? right = some fault) : fault.blamesAggregate = false := by
  unfold arithmeticFault? at found
  split at found
  · split at found <;> cases found
    rfl
  · cases found

theorem operand_blameless {operand : Operand}
    (inner : ∀ expr, operand.expr? = some expr → Blameless expr.operandText) :
    Blameless operand.text := by
  cases operand with
  | value literal =>
      rw [Operand.text]
      exact checkedText_blameless literal
  | expr expr =>
      rw [Operand.text]
      exact inner expr rfl

theorem operandTexts_blameless {members : List Expr}
    (each : ∀ member ∈ members, Blameless member.operandText) :
    Blameless (operandTexts members) := by
  rw [Expr.operandTexts_eq]
  exact .mapM each

theorem branchTexts_blameless {branches : List (Expr × Operand)}
    (each : ∀ branch ∈ branches, Blameless branch.1.operandText ∧ Blameless branch.2.text) :
    Blameless (branchTexts branches) := by
  induction branches with
  | nil => exact .ok ""
  | cons branch rest induction =>
      rw [branchTexts]
      obtain ⟨condition, result⟩ := each branch List.mem_cons_self
      have later := induction fun member among => each member (List.mem_cons_of_mem _ among)
      exact condition.bind fun _ => result.bind fun _ => later.bind fun _ => .ok _

theorem comparedSet_blameless {right : Option Operand} {written : Written}
    (other : Blameless written) : Blameless (comparedSet right written) := by
  unfold comparedSet
  split
  · exact .map (.mapM fun item _ => checkedText_blameless item)
  · exact other

theorem comparison_blameless {left : Expr} {op : Comparator} {right upper : Option Operand}
    (leftPart : Blameless left.operandText)
    (sides : ∀ side ∈ right.toList ++ upper.toList, Blameless side.text) :
    Blameless (Expr.comparison left op right upper).operandText := by
  rw [Expr.operandText]
  simp only
  split
  · next fault found => exact .error (fault_blameless found)
  · refine leftPart.bind fun leftText => ?_
    cases right with
    | none => exact .ok _
    | some right =>
        have rightSide : Blameless right.text := sides right (by simp)
        have set : Blameless (comparedSet (some right) right.text) :=
          comparedSet_blameless rightSide
        cases upper with
        | none =>
            simp only [optionText]
            split
            · exact set.bind fun _ => .ok _
            · exact rightSide.bind fun _ => .ok _
        | some upper =>
            have upperSide : Blameless upper.text := sides upper (by simp)
            simp only [optionText]
            split
            · exact set.bind fun _ => .ok _
            · exact rightSide.bind fun _ => upperSide.bind fun _ => .ok _

theorem junction_blameless {op : Connective} {members : List Expr}
    (each : ∀ member ∈ members, Blameless member.operandText) :
    Blameless (Expr.junction op members).operandText := by
  match members with
  | [] =>
      rw [Expr.operandText]
      exact .error rfl
  | [single] =>
      rw [Expr.operandText]
      exact each single List.mem_cons_self
  | first :: second :: rest =>
      rw [Expr.operandText]
      have later : Blameless (operandTexts rest) :=
        operandTexts_blameless fun member among => each member (by simp [among])
      exact (each first (by simp)).bind fun _ => (each second (by simp)).bind fun _ =>
        later.bind fun _ => .ok _

theorem cases_blameless {branches : List (Expr × Operand)} {otherwise : Option Operand}
    {aliasName : Option String}
    (each : ∀ branch ∈ branches, Blameless branch.1.operandText ∧ Blameless branch.2.text)
    (last : ∀ side, otherwise = some side → Blameless side.text) :
    Blameless (Expr.cases branches otherwise aliasName).operandText := by
  unfold Expr.operandText
  split
  · exact .error rfl
  · exact .error rfl
  · next condition result rest _ _ =>
      obtain ⟨firstCondition, firstResult⟩ := each (condition, result) List.mem_cons_self
      have later : Blameless (branchTexts rest) :=
        branchTexts_blameless fun branch among => each branch (List.mem_cons_of_mem _ among)
      have otherwiseSide : Blameless ((optionText otherwise).getD (.ok "NULL")) := by
        cases otherwise with
        | none => exact .ok "NULL"
        | some side => exact last side rfl
      exact firstCondition.bind fun _ => firstResult.bind fun _ => later.bind fun _ =>
        otherwiseSide.bind fun _ => .ok _

/-- An expression may have no text for many reasons, an aggregate in it is none of them. -/
theorem operandText_blameless (expr : Expr) : Blameless expr.operandText := by
  induction expr using Expr.induction_on_parts with
  | step whole induction =>
      cases whole with
      | field reference =>
          rw [Expr.operandText]
          exact reference_blameless reference
      | literal value =>
          rw [Expr.operandText]
          exact checkedText_blameless value
      | comparison left op right upper =>
          refine comparison_blameless (induction left List.mem_cons_self) fun side among => ?_
          exact operand_blameless fun inner found =>
            induction inner (Expr.mem_parts_comparison found among)
      | junction op members => exact junction_blameless induction
      | negation inner =>
          rw [Expr.operandText]
          exact (induction inner List.mem_cons_self).bind fun _ => .ok _
      | arithmetic left op right aliasName =>
          rw [Expr.operandText]
          split
          · next fault found => exact .error (arithmeticFault_blameless found)
          · have rightSide : Blameless right.text := operand_blameless fun inner found =>
              induction inner (Expr.mem_parts_arithmetic found)
            exact (induction left List.mem_cons_self).bind fun _ => rightSide.bind fun _ => .ok _
      | aggregate function argument aliasName =>
          rw [Expr.operandText.eq_def]
          simp only
          split
          · exact .error rfl
          · cases argument with
            | none => exact .ok _
            | some argument => exact (induction argument List.mem_cons_self).bind fun _ => .ok _
      | cases branches otherwise aliasName =>
          refine cases_blameless (fun branch among => ⟨?_, ?_⟩) fun side given => ?_
          · exact induction _ (Expr.mem_parts_condition among)
          · exact operand_blameless fun inner found =>
              induction inner (Expr.mem_parts_result found among)
          · cases given
            exact operand_blameless fun inner found =>
              induction inner (Expr.mem_parts_otherwise found)

theorem column_blameless (column : Expr) : Blameless column.text := by
  unfold Expr.text
  refine (operandText_blameless column).bind fun body => ?_
  split <;> exact .ok _

/-! ### Clauses without a rule on aggregates -/

theorem duration_blameless (window part : String) (duration : Duration) :
    Blameless (duration.checkedText window part) := by
  unfold Duration.checkedText
  split
  · exact .error rfl
  · exact .ok _

theorem window_blameless (window : Window) : Blameless window.text := by
  unfold Window.text
  refine FailsBy.bind (.mapM fun part _ => ?_) fun _ => .ok _
  exact (duration_blameless _ _ _).map

theorem relation_blameless (relation : Relation) : Blameless relation.text := by
  unfold Relation.text
  split
  · exact .error rfl
  · split <;> exact .ok _

theorem join_blameless (join : Join) : Blameless join.text := by
  unfold Join.text
  split
  · exact .error rfl
  · have condition : Blameless join.conditionOf := by
      unfold Join.conditionOf
      split
      · exact .ok _
      · exact .error rfl
    refine condition.bind fun sides => (relation_blameless join.relation).bind fun relation => ?_
    have matched (within : String) : Blameless (do
        let left ← sides.1.operandText
        let right ← sides.2.operandText
        pure (join.kind.keyword ++ " " ++ relation ++ within ++ " ON " ++ left ++ " = " ++
          right)) :=
      (reference_blameless sides.1).bind fun _ => (reference_blameless sides.2).bind fun _ => .ok _
    split
    · exact (duration_blameless _ _ _).map.bind matched
    · exact matched ""

theorem having_blameless (condition : Expr) : Blameless (havingText condition) :=
  (operandText_blameless condition).map

theorem orderBy_blameless (keys : List (Expr × SortOrder)) : Blameless (orderByText keys) := by
  unfold orderByText
  split
  · exact .error rfl
  · refine FailsBy.bind (.mapM fun key _ => ?_) fun _ => .ok _
    exact (operandText_blameless key.1).map

theorem limit_blameless (limit : Nat) : Blameless (Select.limitText limit) := by
  unfold Select.limitText
  split
  · exact .error rfl
  · exact .ok _

theorem validate_blameless (registry : Registry) (source : Relation) (previous : List Join)
    (join : Join) : Blameless (join.validate registry source previous) := by
  rcases Join.good_or_fault registry source previous join with good | ⟨error, fault⟩
  · rw [good.validated]
    exact .ok ()
  · rw [fault.refused]
    refine .error ?_
    cases fault with
    | querySide _ unresolved | joinSide _ _ unresolved => cases unresolved <;> rfl
    | _ => rfl

/-! ### Clauses on rows -/

theorem whereText_rejects (condition : Expr) :
    whereText condition = .error (.invalidOperand "WHERE" .belongsInHaving) ↔
      condition.HasAggregate := by
  unfold whereText
  split
  · next found => simp [(condition.containsAggregate_iff).1 found, Expr.HasAggregate]
  · next absent =>
      constructor
      · intro failed
        cases (operandText_blameless condition).map _ failed
      · exact fun has => absurd ((condition.containsAggregate_iff).2 has) absent

theorem keyText_rejects (clause : String) (key : Expr) :
    keyText clause key = .error (.invalidOperand clause .aggregateNotAllowed) ↔
      key.HasAggregate := by
  unfold keyText
  split
  · next found => simp [(key.containsAggregate_iff).1 found, Expr.HasAggregate]
  · next absent =>
      constructor
      · intro failed
        cases operandText_blameless key _ failed
      · exact fun has => absurd ((key.containsAggregate_iff).2 has) absent

namespace Select

/-- An aggregate in a clause on rows, with the error for it. -/
inductive Misplaced (select : Select) : StatementError → Prop where
  | filter {condition} (given : select.filter = some condition) (has : condition.HasAggregate) :
      Misplaced select (.invalidOperand "WHERE" .belongsInHaving)
  | groupBy {keys key} (given : select.groupBy = some keys) (among : key ∈ keys)
      (has : key.HasAggregate) : Misplaced select (.invalidOperand "GROUP BY" .aggregateNotAllowed)
  | partitionBy {keys key} (given : select.partitionBy = some keys) (among : key ∈ keys)
      (has : key.HasAggregate) :
      Misplaced select (.invalidOperand "PARTITION BY" .aggregateNotAllowed)

/-- The query itself, and every query that it reads from by name, at any depth. -/
def Nests : Select → Select → Prop :=
  Relation.ReflTransGen fun outer inner => ∃ name, (name, inner) ∈ outer.queries

/-- A query put together call by call, as are the queries that it reads from by name. -/
inductive Made : Select → Prop where
  | empty : Made empty
  | call {select : Select} (call : Call) (made : Made select)
      (named : ∀ name query, call = .nameQuery name query → Made query) : Made (call.run select)

theorem where_clean {condition : Expr} {text : String} (written : whereText condition = .ok text) :
    ¬ condition.HasAggregate := by
  rw [← whereText_rejects, written]
  rintro ⟨⟩

theorem keys_clean {clause : String} {keys : List Expr} {text : String}
    (written : keysText clause keys = .ok text) : ∀ key ∈ keys, ¬ key.HasAggregate := by
  intro key among has
  unfold keysText at written
  split at written
  · cases written
  · obtain ⟨texts, textsWritten, _⟩ := ok_of_bind written
    obtain ⟨text, keyWritten⟩ := ok_of_mapM textsWritten among
    cases ((keyText_rejects clause key).2 has).symm.trans keyWritten

theorem nests_holds {outer inner : Select} (nested : outer.Nests inner) :
    (Node.query outer).Holds (.query inner) := by
  induction nested with
  | refl => exact .refl
  | @tail middle inner _ last induction =>
      obtain ⟨name, among⟩ := last
      have named : Node.namedQuery name inner ∈ (Node.query middle).children :=
        List.mem_append_left _ (List.mem_map.2 ⟨_, among, rfl⟩)
      exact (induction.tail named).tail List.mem_cons_self

/-- A query with a text has no aggregate in its clauses on rows. -/
theorem clean_of_text {select : Select} (written : (Node.query select).HasText) :
    ∀ error, ¬ select.Misplaced error := by
  have clause (node : Node) (inside : node ∈ Node.clauses select) : node.HasText :=
    Node.hasText_child written (List.mem_append_right _ inside)
  intro error misplaced
  cases misplaced with
  | @filter condition given has =>
      obtain ⟨text, filterWritten⟩ := clause (.filter condition) (by simp [Node.clauses, given])
      exact where_clean filterWritten has
  | @groupBy keys key given among has =>
      obtain ⟨text, keysWritten⟩ := clause (.groupBy keys) (by simp [Node.clauses, given])
      exact keys_clean keysWritten key among has
  | @partitionBy keys key given among has =>
      obtain ⟨text, keysWritten⟩ := clause (.partitionBy keys) (by simp [Node.clauses, given])
      exact keys_clean keysWritten key among has

/-! ### Failures of queries -/

/-- An error that blames an aggregate is that of a clause on rows of the query, or of one nested in
it, that does hold an aggregate. -/
def Blames (select : Select) (error : StatementError) : Prop :=
  error.blamesAggregate = true → ∃ inner, select.Nests inner ∧ inner.Misplaced error

theorem blames_of_blameless {α : Type} {step : Except StatementError α} (select : Select)
    (blameless : Blameless step) : FailsBy select.Blames step := by
  refine blameless.weaken fun error innocent blamed => ?_
  rw [innocent] at blamed
  cases blamed

theorem Misplaced.blamed {select : Select} {error : StatementError}
    (misplaced : select.Misplaced error) : select.Blames error :=
  fun _ => ⟨select, .refl, misplaced⟩

theorem where_fails {select : Select} {condition : Expr} (given : select.filter = some condition) :
    FailsBy select.Blames (whereText condition) := by
  unfold whereText
  split
  · next found =>
      have has : condition.HasAggregate := (condition.containsAggregate_iff).1 found
      exact .error (Misplaced.filter given has).blamed
  · exact blames_of_blameless select (operandText_blameless condition).map

theorem keys_fail {select : Select} {clause : String} {keys : List Expr}
    (misplaced : ∀ key ∈ keys, key.HasAggregate →
      select.Misplaced (.invalidOperand clause .aggregateNotAllowed)) :
    FailsBy select.Blames (keysText clause keys) := by
  unfold keysText
  split
  · exact blames_of_blameless select (.error rfl)
  · have texts : FailsBy select.Blames (keys.mapM (keyText clause)) := by
      refine .mapM fun key among => ?_
      unfold keyText
      split
      · next found =>
          exact .error (misplaced key among ((key.containsAggregate_iff).1 found)).blamed
      · exact blames_of_blameless select (operandText_blameless key)
    exact texts.bind fun _ => .ok _

theorem optionalText_fails {α : Type} {sort : StatementError → Prop} {write : α → Written}
    {part : Option α} (each : ∀ item, part = some item → FailsBy sort (write item)) :
    FailsBy sort (optionalText write part) := by
  cases part with
  | none => exact .ok []
  | some item => exact (each item rfl).map

theorem clauses_fail (select : Select) (source : Relation) :
    FailsBy select.Blames (select.clauseTexts source) := by
  have plain {α : Type} {step : Except StatementError α} (blameless : Blameless step) :
      FailsBy select.Blames step := blames_of_blameless select blameless
  unfold clauseTexts
  refine (plain (.mapM fun column _ => column_blameless column)).bind fun _ => ?_
  refine (plain (relation_blameless source)).bind fun _ => ?_
  refine (plain (.mapM fun join _ => join_blameless join)).bind fun _ => ?_
  refine (plain (optionalText_fails fun window _ => window_blameless window)).bind fun _ => ?_
  refine (optionalText_fails fun condition given => where_fails given).bind fun _ => ?_
  refine (optionalText_fails fun keys given => keys_fail fun key among has =>
    .groupBy given among has).bind fun _ => ?_
  refine (plain (optionalText_fails fun condition _ => having_blameless condition)).bind
    fun _ => ?_
  refine (optionalText_fails fun keys given => keys_fail fun key among has =>
    .partitionBy given among has).bind fun _ => ?_
  refine (plain (optionalText_fails fun keys _ => orderBy_blameless keys)).bind fun _ => ?_
  exact (plain (optionalText_fails fun limit _ => limit_blameless limit)).bind fun _ => .ok _

theorem sizeOf_query {select query : Select} {name : String}
    (named : (name, query) ∈ select.queries) : sizeOf query < sizeOf select := by
  have smaller := List.sizeOf_lt_of_mem named
  cases select
  simp at smaller ⊢
  omega

/-- Induction from the queries that a query reads from to the query. -/
theorem induction_on_queries {motive : Select → Prop}
    (step : ∀ outer, (∀ name query, (name, query) ∈ outer.queries → motive query) → motive outer)
    (select : Select) : motive select :=
  step select fun _ query named =>
    have := sizeOf_query named
    induction_on_queries step query
termination_by sizeOf select

theorem queries_fail {sort : StatementError → Prop} {queries : List (String × Select)}
    (unnamed : sort (.missingAlias "WITH"))
    (each : ∀ name query, (name, query) ∈ queries → FailsBy sort query.bodyText) :
    FailsBy sort (queryTexts queries) := by
  induction queries with
  | nil =>
      rw [queryTexts]
      exact .ok []
  | cons named rest induction =>
      obtain ⟨name, query⟩ := named
      rw [queryTexts]
      split
      · exact .error unnamed
      · have later := induction fun other query among =>
          each other query (List.mem_cons_of_mem _ among)
        exact (each name query List.mem_cons_self).bind fun _ => later.bind fun _ => .ok _

theorem opening_blameless {select : Select}
    (fault : ∀ error, select.fault = some error → error.blamesAggregate = false) :
    Blameless select.opening := by
  unfold opening
  split
  · next error given => exact .error (fault error given)
  · split
    · exact .error rfl
    · split
      · exact .error rfl
      · exact .ok _

/-- The check of a join is all that a call can fail at, and it does not look at expressions. -/
theorem Made.fault {select : Select} (made : select.Made) :
    ∀ error, select.fault = some error → error.blamesAggregate = false := by
  induction made with
  | empty =>
      intro error given
      cases given
  | @call select call _ _ fault _ =>
      intro error given
      cases added : call.join? with
      | none =>
          rw [(run_joinless added select).2] at given
          exact fault error given
      | some join =>
          cases call <;> cases added
          simp only [Call.run, addJoin] at given
          split at given
          · exact fault error given
          · split at given
            · next refused =>
                cases given
                unfold joinFault? at refused
                split at refused
                · cases refused
                  rfl
                · split at refused
                  · cases refused
                  · split at refused
                    · cases refused
                    · next failed =>
                        cases refused
                        exact validate_blameless _ _ _ _ _ failed
            · exact fault error given

theorem Made.named {select : Select} (made : select.Made) :
    ∀ name query, (name, query) ∈ select.queries → query.Made := by
  induction made with
  | empty =>
      intro name query among
      cases among
  | @call select call _ added named _ =>
      intro name query among
      cases call with
      | nameQuery newName newQuery =>
          rcases List.mem_append.1 among with among | among
          · exact named name query among
          · cases List.mem_singleton.1 among
            exact added name query rfl
      | addJoin join =>
          simp only [Call.run, addJoin] at among
          split at among
          · exact named name query among
          · split at among <;> exact named name query among
      | _ => exact named name query among

theorem made_runAll {calls : List Call} {select : Select} (made : select.Made)
    (named : ∀ name query, .nameQuery name query ∈ calls → query.Made) :
    (runAll calls select).Made := by
  induction calls generalizing select with
  | nil => exact made
  | cons call rest induction =>
      have next : (call.run select).Made := by
        refine .call call made fun name query here => named name query ?_
        rw [here]
        exact List.mem_cons_self
      exact induction next fun name query among =>
        named name query (List.mem_cons_of_mem _ among)

theorem bodyText_fails {select : Select} (made : select.Made) :
    FailsBy select.Blames select.bodyText := by
  induction select using induction_on_queries with
  | step outer induction =>
      have opened : FailsBy outer.Blames outer.opening :=
        blames_of_blameless outer (opening_blameless made.fault)
      have queries : FailsBy outer.Blames (queryTexts outer.queries) := by
        refine queries_fail (fun blamed => by cases blamed) fun name query among => ?_
        refine (induction name query among (made.named name query among)).weaken ?_
        intro error blames blamed
        obtain ⟨inner, nested, misplaced⟩ := blames blamed
        exact ⟨inner, .head ⟨name, among⟩ nested, misplaced⟩
      rw [bodyText_eq]
      exact opened.bind fun source => queries.bind fun _ =>
        (clauses_fail outer source).bind fun _ => .ok _

/-- The search for an aggregate finds exactly the expressions with one; a condition or a key is
turned away for an aggregate exactly if it has one; a query with a text has none in the clauses on
rows, its own or those of the queries nested in it; and a query that fails for an aggregate has one
where its error says. -/
theorem aggregates_kept_out :
    (∀ expr : Expr, expr.containsAggregate = true ↔ expr.HasAggregate) ∧
      (∀ condition, whereText condition = .error (.invalidOperand "WHERE" .belongsInHaving) ↔
        condition.HasAggregate) ∧
      (∀ clause key, keyText clause key = .error (.invalidOperand clause .aggregateNotAllowed) ↔
        key.HasAggregate) ∧
      ∀ select : Select,
        (∀ text, select.bodyText = .ok text →
          ∀ inner, select.Nests inner → ∀ error, ¬ inner.Misplaced error) ∧
        (select.Made → ∀ error, select.bodyText = .error error → error.blamesAggregate = true →
          ∃ inner, select.Nests inner ∧ inner.Misplaced error) := by
  refine ⟨Expr.containsAggregate_iff, whereText_rejects, keyText_rejects, fun select => ⟨?_, ?_⟩⟩
  · intro text written inner nested
    have whole : (Node.query select).HasText := ⟨text, written⟩
    exact clean_of_text (Node.hasText_part whole (nests_holds nested))
  · intro made error failed
    exact bodyText_fails made error failed

/-- A query of the orders that have the given filter, by key. -/
def ordersBy (condition : Option Expr) (key : Expr) : List Call :=
  [.addColumns [.field ⟨none, "id", none⟩], .readFrom ⟨"orders", none, none⟩] ++
    condition.toList.map .addFilter ++
    [.setGroupBy [key], .addHaving
      (.comparison (.aggregate .count none none) .greater (some (.value (.integer 3))) none)]

/-- A query that reads from another one. -/
def readingFrom (calls : List Call) : List Call :=
  [.nameQuery "busy" (built calls), .addColumns [.field ⟨none, "id", none⟩],
    .readFrom ⟨"busy", none, none⟩]

theorem readingFrom_made {calls : List Call}
    (plain : ∀ name query, .nameQuery name query ∉ calls) : (built (readingFrom calls)).Made := by
  have inner : (built calls).Made :=
    made_runAll .empty fun name query among => absurd among (plain name query)
  refine made_runAll .empty fun name query among => ?_
  simp only [readingFrom, List.mem_cons, Call.nameQuery.injEq, reduceCtorEq, List.not_mem_nil,
    or_false] at among
  rw [among.2]
  exact inner

/-- Orders are counted behind HAVING, behind a filter with bounds. With the greatest total as the
default of a key, the query fails; and so does the one that reads from it. -/
theorem orders_kept_out :
    let total : Expr := .field ⟨none, "total", none⟩
    let bounded : Expr :=
      .comparison total .between (some (.value (.integer 1))) (some (.value (.integer 9)))
    let greatest : Expr := .aggregate .maximum (some total) none
    let key : Expr :=
      .cases [(bounded, .value (.integer 0))] (some (.expr greatest)) (some "bucket")
    (built (readingFrom (ordersBy (some bounded) total))).bodyText = .ok
        ("WITH busy AS (SELECT id FROM orders WHERE total BETWEEN 1 AND 9 GROUP BY total " ++
          "HAVING COUNT(*) > 3) SELECT id FROM busy") ∧
      (∀ inner, (built (readingFrom (ordersBy (some bounded) total))).Nests inner →
        ∀ error, ¬ inner.Misplaced error) ∧
      (built (readingFrom (ordersBy none key))).bodyText =
        .error (.invalidOperand "GROUP BY" .aggregateNotAllowed) ∧
      ∃ inner, (built (readingFrom (ordersBy none key))).Nests inner ∧
        inner.Misplaced (.invalidOperand "GROUP BY" .aggregateNotAllowed) := by
  intro total bounded greatest key
  obtain ⟨_, _, _, good⟩ := aggregates_kept_out
  refine ⟨rfl, (good _).1 _ rfl, rfl, (good _).2 (readingFrom_made ?_) _ rfl rfl⟩
  simp [ordersBy]

end Select

end StreamQuery
