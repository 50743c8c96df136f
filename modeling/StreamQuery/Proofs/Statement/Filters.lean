import StreamQuery.Proofs.Statement.Joins
/-!
# Conditions added one after another

All conditions that a query is given for its rows or its groups become one condition. It is written
as a list of them in parentheses, in which a list that came first is not nested. The conjunction has
a text when each condition has one; only an empty list that came first goes unnoticed behind others.
-/

namespace StreamQuery

open Text

namespace Expr

/-- The text of an expression by itself. -/
def WrittenAs (expr : Expr) (text : String) : Prop :=
  expr.operandText = .ok text

/-- The conditions that a condition requires one by one. -/
def conjuncts : Expr → List Expr
  | .junction .and members => members
  | condition => [condition]

/-- True of the list that requires nothing. -/
def isEmptyList : Expr → Bool
  | .junction .and [] => true
  | _ => false

theorem conjuncts_some {condition : Expr} (some : condition.isEmptyList = false) :
    condition.conjuncts ≠ [] := by
  unfold conjuncts
  split
  · rintro rfl
    cases some
  · exact List.cons_ne_nil _ _

theorem eq_emptyList {condition : Expr} (empty : condition.isEmptyList = true) :
    condition = .junction .and [] := by
  unfold isEmptyList at empty
  split at empty
  · rfl
  · cases empty

end Expr

/-- Texts of conditions that are all required: one stands alone, several stand in parentheses. -/
def conjunctionText : List String → String
  | [text] => text
  | texts => "(" ++ joinWith " AND " texts ++ ")"

theorem operandTexts_iff {members : List Expr} {texts : List String} :
    operandTexts members = .ok texts ↔ List.Forall₂ Expr.WrittenAs members texts := by
  rw [Expr.operandTexts_eq]
  exact ⟨forall₂_of_mapM, mapM_of_forall₂⟩

/-- The text of a conjunction is made of the texts of all its members. -/
theorem conjunction_written {members : List Expr} (some : members ≠ []) (text : String) :
    (Expr.junction .and members).WrittenAs text ↔
      ∃ texts, List.Forall₂ Expr.WrittenAs members texts ∧ text = conjunctionText texts := by
  match members with
  | [] => exact absurd rfl some
  | [single] =>
      rw [Expr.WrittenAs, Expr.operandText]
      constructor
      · intro written
        exact ⟨[text], .cons written .nil, rfl⟩
      · rintro ⟨texts, all, rfl⟩
        cases all with
        | cons here later =>
            cases later
            exact here
  | first :: second :: rest =>
      constructor
      · intro written
        cases Expr.junction_shape written with
        | @junction _ _ _ _ texts all =>
            have each := operandTexts_iff.1 all
            refine ⟨texts, each, ?_⟩
            cases each with
            | cons _ later =>
                cases later with
                | cons _ _ => rfl
      · rintro ⟨texts, all, rfl⟩
        cases all with
        | @cons _ firstText _ _ here later =>
            cases later with
            | @cons _ secondText _ restTexts next others =>
                rw [Expr.WrittenAs, Expr.operandText, show first.operandText = _ from here,
                  show second.operandText = _ from next, operandTexts_iff.2 others]
                rfl

theorem conjunctionText_several {texts : List String} (several : 2 ≤ texts.length) :
    conjunctionText texts = "(" ++ joinWith " AND " texts ++ ")" := by
  match texts with
  | [] => cases several
  | [_] => simp at several
  | _ :: _ :: _ => rfl

/-- A condition has a text when each that it requires has one, unless it is the empty list. -/
theorem written_conjuncts {condition : Expr} (some : condition.isEmptyList = false) :
    (∃ text, condition.WrittenAs text) ↔
      ∀ member ∈ condition.conjuncts, ∃ text, member.WrittenAs text := by
  have members := Expr.conjuncts_some some
  unfold Expr.conjuncts at members ⊢
  split
  · simp only [conjunction_written members]
    rw [← exists_forall₂]
    exact ⟨fun ⟨_, texts, all, _⟩ => ⟨texts, all⟩, fun ⟨texts, all⟩ => ⟨_, texts, all, rfl⟩⟩
  · simp

/-! ### One condition after another -/

theorem conjoin_eq (current next : Expr) :
    conjoin current next = .junction .and (current.conjuncts ++ [next]) := by
  cases current with
  | junction op members => cases op <;> rfl
  | _ => rfl

theorem conjoined_eq (first second : Expr) (rest : List Expr) :
    (second :: rest).foldl conjoin first =
      .junction .and (first.conjuncts ++ second :: rest) := by
  induction rest generalizing first second with
  | nil => exact conjoin_eq first second
  | cons third rest induction =>
      have step : (second :: third :: rest).foldl conjoin first =
          (third :: rest).foldl conjoin (conjoin first second) := rfl
      rw [step, induction, conjoin_eq, Expr.conjuncts, List.append_assoc, List.singleton_append]

theorem containsAggregate_conjuncts (condition : Expr) :
    condition.containsAggregate = condition.conjuncts.any Expr.containsAggregate := by
  unfold Expr.conjuncts
  split
  · rw [Expr.containsAggregate, Expr.any_containsAggregate]
  · simp

/-- No aggregate is in a conjunction of conditions without one. -/
theorem conjoined_rowLevel {first : Expr} {rest : List Expr}
    (rowLevel : ∀ condition ∈ first :: rest, condition.containsAggregate = false) :
    (rest.foldl conjoin first).containsAggregate = false := by
  obtain ⟨here, later⟩ := List.forall_mem_cons.1 rowLevel
  cases rest with
  | nil => exact here
  | cons second rest =>
      rw [containsAggregate_conjuncts] at here
      rw [conjoined_eq, containsAggregate_conjuncts, Expr.conjuncts, List.any_append, here,
        Bool.false_or, List.any_eq_false]
      intro condition member
      rw [Bool.not_eq_true]
      exact later condition member

namespace Select

def Call.filter? : Call → Option Expr
  | .addFilter condition => some condition
  | _ => none

def Call.having? : Call → Option Expr
  | .addHaving condition => some condition
  | _ => none

/-- The conditions on rows that some calls ask for. -/
def filtersOf (calls : List Call) : List Expr :=
  calls.filterMap Call.filter?

/-- The conditions on groups that some calls ask for. -/
def havingsOf (calls : List Call) : List Expr :=
  calls.filterMap Call.having?

theorem addJoin_conditions (join : Join) (select : Select) :
    (select.addJoin join).filter = select.filter ∧
      (select.addJoin join).having = select.having := by
  unfold addJoin
  split
  · exact ⟨rfl, rfl⟩
  · split <;> exact ⟨rfl, rfl⟩

theorem run_filter (call : Call) (select : Select) :
    (call.run select).filter =
      call.filter?.elim select.filter fun added => some (alsoRequire select.filter added) := by
  cases call with
  | addJoin join => exact (addJoin_conditions join select).1
  | _ => rfl

theorem run_having (call : Call) (select : Select) :
    (call.run select).having =
      call.having?.elim select.having fun added => some (alsoRequire select.having added) := by
  cases call with
  | addJoin join => exact (addJoin_conditions join select).2
  | _ => rfl

/-- A condition that each call either adds to or leaves alone requires all that was added. -/
theorem runAll_required {asked? : Call → Option Expr} {field : Select → Option Expr}
    (step : ∀ call select, field (call.run select) =
      (asked? call).elim (field select) fun added => some (alsoRequire (field select) added))
    (calls : List Call) (select : Select) :
    field (runAll calls select) = (calls.filterMap asked?).foldl
      (fun current added => some (alsoRequire current added)) (field select) := by
  induction calls generalizing select with
  | nil => rfl
  | cons call rest induction =>
      rw [runAll, List.foldl_cons, ← runAll, induction, step, List.filterMap_cons]
      cases asked? call <;> rfl

theorem required_eq (first : Expr) (rest : List Expr) :
    (first :: rest).foldl (fun current added => some (alsoRequire current added)) none =
      some (rest.foldl conjoin first) := by
  have later (condition : Expr) :
      rest.foldl (fun current added => some (alsoRequire current added)) (some condition) =
        some (rest.foldl conjoin condition) := by
    induction rest generalizing condition with
    | nil => rfl
    | cons next rest induction => exact induction (conjoin condition next)
  exact later first

/-- What a clause is that requires a first condition and further ones. -/
structure RequiresAll (keyword : String) (first : Expr) (rest : List Expr)
    (clause : Except StatementError (List String)) : Prop where
  /-- Each condition is checked, but for an empty list in front of others. -/
  written_iff : (∃ texts, clause = .ok texts) ↔
    ((∃ text, first.WrittenAs text) ∨ first.isEmptyList = true ∧ rest ≠ []) ∧
      ∀ condition ∈ rest, ∃ text, condition.WrittenAs text
  alone : rest = [] → ∀ texts, clause = .ok texts ↔
    ∃ text, first.WrittenAs text ∧ texts = [keyword ++ text]
  together : rest ≠ [] → first.isEmptyList = false → ∀ texts, clause = .ok texts ↔
    ∃ members, List.Forall₂ Expr.WrittenAs (first.conjuncts ++ rest) members ∧
      texts = [keyword ++ ("(" ++ joinWith " AND " members ++ ")")]
  unnoticed : rest ≠ [] → first.isEmptyList = true → ∀ texts, clause = .ok texts ↔
    ∃ members, List.Forall₂ Expr.WrittenAs rest members ∧
      texts = [keyword ++ conjunctionText members]

theorem requiresAll {keyword : String} {first : Expr} {rest : List Expr}
    {clause : Except StatementError (List String)}
    (made : ∀ texts, clause = .ok texts ↔
      ∃ text, (rest.foldl conjoin first).WrittenAs text ∧ texts = [keyword ++ text]) :
    RequiresAll keyword first rest clause := by
  have conjunction (some : rest ≠ []) : rest.foldl conjoin first =
      .junction .and (first.conjuncts ++ rest) := by
    cases rest with
    | nil => exact absurd rfl some
    | cons second rest => exact conjoined_eq first second rest
  -- Behind a first condition the clause is written from its members and the others.
  have members (some : rest ≠ []) (texts : List String) : clause = .ok texts ↔
      ∃ members, List.Forall₂ Expr.WrittenAs (first.conjuncts ++ rest) members ∧
        texts = [keyword ++ conjunctionText members] := by
    rw [made, conjunction some]
    simp only [conjunction_written (List.append_ne_nil_of_right_ne_nil _ some)]
    constructor
    · rintro ⟨_, ⟨members, all, rfl⟩, rfl⟩
      exact ⟨members, all, rfl⟩
    · rintro ⟨members, all, rfl⟩
      exact ⟨_, ⟨members, all, rfl⟩, rfl⟩
  have alone (none : rest = []) (texts : List String) : clause = .ok texts ↔
      ∃ text, first.WrittenAs text ∧ texts = [keyword ++ text] := by
    rw [made, none, List.foldl_nil]
  refine ⟨?_, alone, ?_, ?_⟩
  · by_cases none : rest = []
    · simp only [alone none]
      constructor
      · rintro ⟨_, text, here, rfl⟩
        exact ⟨.inl ⟨text, here⟩, by simp [none]⟩
      · rintro ⟨⟨text, here⟩ | ⟨_, some⟩, _⟩
        · exact ⟨_, text, here, rfl⟩
        · exact absurd none some
    · have each : (∃ texts, clause = .ok texts) ↔
          ∀ member ∈ first.conjuncts ++ rest, ∃ text, member.WrittenAs text := by
        simp only [members none]
        rw [← exists_forall₂]
        exact ⟨fun ⟨_, texts, all, _⟩ => ⟨texts, all⟩, fun ⟨texts, all⟩ => ⟨_, texts, all, rfl⟩⟩
      rw [each, List.forall_mem_append]
      cases empty : first.isEmptyList with
      | true => simp [Expr.eq_emptyList empty, Expr.conjuncts, none]
      | false => simp [written_conjuncts empty]
  · intro some visible texts
    rw [members some]
    refine exists_congr fun members => and_congr_right fun all => ?_
    have several : 2 ≤ members.length := by
      have front := List.length_pos_of_ne_nil (Expr.conjuncts_some visible)
      have back := List.length_pos_of_ne_nil some
      rw [← all.length_eq, List.length_append]
      omega
    rw [conjunctionText_several several]
  · intro some empty texts
    rw [members some, Expr.eq_emptyList empty, Expr.conjuncts, List.nil_append]

theorem optionalText_some {write : Expr → Written} {condition : Expr} {keyword : String}
    (written : write condition = condition.operandText.map (keyword ++ ·)) (texts : List String) :
    optionalText write (some condition) = .ok texts ↔
      ∃ text, condition.WrittenAs text ∧ texts = [keyword ++ text] := by
  rw [optionalText, written]
  cases shown : condition.operandText <;> simp [Expr.WrittenAs, shown, Except.map, eq_comm]

/-- All conditions that a query is asked for are required, those on rows if no aggregate is in
them. -/
theorem conditions_required (calls : List Call) :
    (∀ first rest, filtersOf calls = first :: rest →
      (∀ condition ∈ first :: rest, condition.containsAggregate = false) →
        RequiresAll "WHERE " first rest (optionalText whereText (built calls).filter)) ∧
      ∀ first rest, havingsOf calls = first :: rest →
        RequiresAll "HAVING " first rest (optionalText havingText (built calls).having) := by
  constructor
  · intro first rest asked rowLevel
    have filter : (built calls).filter = some (rest.foldl conjoin first) := by
      rw [built, runAll_required run_filter, ← filtersOf, asked, empty, required_eq]
    have unaggregated : whereText (rest.foldl conjoin first) =
        (rest.foldl conjoin first).operandText.map ("WHERE " ++ ·) := by
      rw [whereText, conjoined_rowLevel rowLevel]
      rfl
    apply requiresAll
    rw [filter]
    exact optionalText_some unaggregated
  · intro first rest asked
    have having : (built calls).having = some (rest.foldl conjoin first) := by
      rw [built, runAll_required run_having, ← havingsOf, asked, empty, required_eq]
    apply requiresAll
    rw [having]
    exact optionalText_some rfl

/-! ### Conditions at which it is seen -/

def column (name : String) : Expr :=
  .field ⟨none, name, none⟩

def isAbove (name : String) (bound : Int) : Expr :=
  .comparison (column name) .greater (some (.value (.integer bound))) none

/-- A list that came first is not nested, one that comes later is, and other calls between do not
matter. -/
theorem listed_filters_required :
    let listed := Expr.junction .and [isAbove "qty" 3, isAbove "price" 10]
    let either := Expr.junction .or [isAbove "qty" 5, isAbove "price" 20]
    let calls := [Call.addFilter listed, .setLimit 5, .addFilter either, .addHaving either]
    filtersOf calls = [listed, either] ∧
      (∀ condition ∈ [listed, either], condition.containsAggregate = false) ∧
      RequiresAll "WHERE " listed [either] (optionalText whereText (built calls).filter) ∧
      optionalText whereText (built calls).filter =
        .ok ["WHERE (qty > 3 AND price > 10 AND (qty > 5 OR price > 20))"] ∧
      havingsOf calls = [either] ∧
      RequiresAll "HAVING " either [] (optionalText havingText (built calls).having) := by
  intro listed either calls
  have asked : filtersOf calls = [listed, either] := rfl
  have rowLevel : ∀ condition ∈ [listed, either], condition.containsAggregate = false := by
    simp [listed, either, isAbove, column, Expr.containsAggregate, anyContainsAggregate,
      optionContainsAggregate, Operand.containsAggregate]
  have both := conditions_required calls
  exact ⟨asked, rowLevel, both.1 _ _ asked rowLevel, rfl, rfl, both.2 _ _ rfl⟩

/-- An empty list has no text, but conditions on rows or groups that begin with one have the text of
those behind it. -/
theorem empty_list_unnoticed :
    let conditions := [Expr.junction .and [], isAbove "qty" 3]
    let filtered := built (conditions.map .addFilter)
    let grouped := built (conditions.map .addHaving)
    (∀ condition ∈ conditions, condition.containsAggregate = false) ∧
      optionalText whereText filtered.filter = .ok ["WHERE qty > 3"] ∧
      ¬((∃ texts, optionalText whereText filtered.filter = .ok texts) ↔
        ∀ condition ∈ conditions, ∃ text, condition.WrittenAs text) ∧
      optionalText havingText grouped.having = .ok ["HAVING qty > 3"] ∧
      ¬((∃ texts, optionalText havingText grouped.having = .ok texts) ↔
        ∀ condition ∈ conditions, ∃ text, condition.WrittenAs text) := by
  intro conditions filtered grouped
  have rowLevel : ∀ condition ∈ conditions, condition.containsAggregate = false := by
    simp [conditions, isAbove, column, Expr.containsAggregate, anyContainsAggregate,
      optionContainsAggregate, Operand.containsAggregate]
  have rows : optionalText whereText filtered.filter = .ok ["WHERE qty > 3"] := rfl
  have groups : optionalText havingText grouped.having = .ok ["HAVING qty > 3"] := rfl
  have unwritten : ¬∀ condition ∈ conditions, ∃ text, condition.WrittenAs text := by
    intro each
    obtain ⟨text, written⟩ := each (.junction .and []) List.mem_cons_self
    cases written
  exact ⟨rowLevel, rows, fun same => unwritten (same.1 ⟨_, rows⟩), groups,
    fun same => unwritten (same.1 ⟨_, groups⟩)⟩

end Select

end StreamQuery
