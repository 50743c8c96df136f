import Mathlib.Logic.Relation
import StreamQuery.Expr.Basic
/-!
# Parts of expressions

The expressions that stand directly in an expression, and those that stand in it at any depth.
-/

namespace StreamQuery

def Operand.expr? : Operand → Option Expr
  | .value _ => none
  | .expr inner => some inner

namespace Expr

/-- The expressions that stand directly in an expression, in reading order. -/
def parts : Expr → List Expr
  | .field _ | .literal _ => []
  | .comparison left _ right upper =>
      left :: (right.toList ++ upper.toList).filterMap Operand.expr?
  | .junction _ members => members
  | .negation inner => [inner]
  | .arithmetic left _ right _ => left :: right.expr?.toList
  | .aggregate _ argument _ => argument.toList
  | .cases branches otherwise _ =>
      branches.flatMap (fun branch => branch.1 :: branch.2.expr?.toList) ++
        otherwise.toList.filterMap Operand.expr?

/-- True of the expression itself and of every expression at any depth in it. -/
def Contains : Expr → Expr → Prop :=
  Relation.ReflTransGen fun whole part => part ∈ whole.parts

theorem expr?_eq_some {operand : Operand} {part : Expr} (found : operand.expr? = some part) :
    operand = .expr part := by
  cases operand with
  | value literal => cases found
  | expr expr =>
      cases found
      rfl

section Operands

variable {left part : Expr} {operand : Operand} (found : operand.expr? = some part)

include found

theorem mem_parts_comparison {op : Comparator} {right upper : Option Operand}
    (side : operand ∈ right.toList ++ upper.toList) :
    part ∈ (comparison left op right upper).parts :=
  List.mem_cons_of_mem _ (List.mem_filterMap.2 ⟨operand, side, found⟩)

theorem mem_parts_arithmetic {op : ArithmeticOp} {aliasName : Option String} :
    part ∈ (arithmetic left op operand aliasName).parts :=
  List.mem_cons_of_mem _ (Option.mem_toList.2 found)

theorem mem_parts_result {condition : Expr} {branches : List (Expr × Operand)}
    {otherwise : Option Operand} {aliasName : Option String}
    (member : (condition, operand) ∈ branches) :
    part ∈ (cases branches otherwise aliasName).parts :=
  List.mem_append_left _ (List.mem_flatMap.2
    ⟨_, member, List.mem_cons_of_mem _ (Option.mem_toList.2 found)⟩)

theorem mem_parts_otherwise {branches : List (Expr × Operand)} {aliasName : Option String} :
    part ∈ (cases branches (some operand) aliasName).parts :=
  List.mem_append_right _ (List.mem_filterMap.2 ⟨operand, List.mem_singleton_self operand, found⟩)

end Operands

theorem mem_parts_condition {condition : Expr} {result : Operand}
    {branches : List (Expr × Operand)} {otherwise : Option Operand} {aliasName : Option String}
    (member : (condition, result) ∈ branches) :
    condition ∈ (cases branches otherwise aliasName).parts :=
  List.mem_append_left _ (List.mem_flatMap.2 ⟨_, member, List.mem_cons_self⟩)

theorem sizeOf_expr? {operand : Operand} {part : Expr} (found : operand.expr? = some part) :
    sizeOf part < sizeOf operand := by
  rw [expr?_eq_some found]
  simp

theorem sizeOf_part {whole part : Expr} (inside : part ∈ whole.parts) :
    sizeOf part < sizeOf whole := by
  cases whole with
  | field reference => cases inside
  | literal value => cases inside
  | comparison left op right upper =>
      simp only [parts, List.mem_cons, List.mem_filterMap, List.mem_append, Option.mem_toList]
        at inside
      rcases inside with rfl | ⟨operand, rfl | rfl, found⟩
      · simp
        omega
      · have smaller := sizeOf_expr? found
        simp
        omega
      · have smaller := sizeOf_expr? found
        simp
        omega
  | junction op members =>
      have smaller : sizeOf part < sizeOf members := List.sizeOf_lt_of_mem inside
      simp
      omega
  | negation inner =>
      cases List.mem_singleton.1 inside
      simp
  | arithmetic left op right aliasName =>
      simp only [parts, List.mem_cons, Option.mem_toList] at inside
      rcases inside with rfl | found
      · simp
        omega
      · have smaller := sizeOf_expr? found
        simp
        omega
  | aggregate function argument aliasName =>
      simp only [parts, Option.mem_toList] at inside
      cases inside
      simp
      omega
  | cases branches otherwise aliasName =>
      simp only [parts, List.mem_append, List.mem_flatMap, List.mem_cons, Option.mem_toList,
        List.mem_filterMap] at inside
      rcases inside with ⟨⟨condition, result⟩, member, rfl | found⟩ | ⟨operand, rfl, found⟩
      · have smaller := List.sizeOf_lt_of_mem member
        simp at smaller ⊢
        omega
      · have smaller := List.sizeOf_lt_of_mem member
        have within := sizeOf_expr? found
        simp at smaller within ⊢
        omega
      · have smaller := sizeOf_expr? found
        simp
        omega

/-- Induction from the parts of an expression to the expression. -/
theorem induction_on_parts {motive : Expr → Prop}
    (step : ∀ whole, (∀ part ∈ whole.parts, motive part) → motive whole) (expr : Expr) :
    motive expr :=
  step expr fun part inside =>
    have := sizeOf_part inside
    induction_on_parts step part
termination_by sizeOf expr

/-! ### Aggregates -/

def isAggregate : Expr → Bool
  | .aggregate .. => true
  | _ => false

theorem operand_containsAggregate (operand : Operand) :
    operand.containsAggregate = operand.expr?.toList.any containsAggregate := by
  cases operand <;> simp [Operand.containsAggregate, Operand.expr?]

theorem option_containsAggregate (operand : Option Operand) :
    optionContainsAggregate operand =
      (operand.toList.filterMap Operand.expr?).any containsAggregate := by
  cases operand with
  | none => rfl
  | some operand =>
      rw [optionContainsAggregate, operand_containsAggregate]
      cases operand <;> rfl

theorem any_containsAggregate (members : List Expr) :
    anyContainsAggregate members = members.any containsAggregate := by
  induction members with
  | nil => rfl
  | cons member rest induction => rw [anyContainsAggregate, List.any_cons, induction]

theorem branch_containsAggregate (branches : List (Expr × Operand)) :
    branchContainsAggregate branches =
      (branches.flatMap fun branch => branch.1 :: branch.2.expr?.toList).any containsAggregate := by
  induction branches with
  | nil => rfl
  | cons branch rest induction =>
      simp [branchContainsAggregate, induction, operand_containsAggregate, Bool.or_assoc]

/-- The search for aggregates goes through all parts. -/
theorem containsAggregate_parts (expr : Expr) :
    expr.containsAggregate = (expr.isAggregate || expr.parts.any containsAggregate) := by
  cases expr with
  | comparison left op right upper =>
      simp [containsAggregate, isAggregate, parts, option_containsAggregate, Bool.or_assoc]
  | junction op members => simp [containsAggregate, isAggregate, parts, any_containsAggregate]
  | arithmetic left op right aliasName =>
      simp [containsAggregate, isAggregate, parts, operand_containsAggregate]
  | cases branches otherwise aliasName =>
      simp [containsAggregate, isAggregate, parts, branch_containsAggregate,
        option_containsAggregate]
  | _ => simp [containsAggregate, isAggregate, parts]

theorem containsAggregate_iff (expr : Expr) :
    expr.containsAggregate = true ↔ ∃ part, expr.Contains part ∧ part.isAggregate = true := by
  constructor
  · induction expr using induction_on_parts with
    | step whole induction =>
        intro found
        rw [containsAggregate_parts, Bool.or_eq_true, List.any_eq_true] at found
        rcases found with here | ⟨part, inside, found⟩
        · exact ⟨whole, .refl, here⟩
        · obtain ⟨inner, within, aggregate⟩ := induction part inside found
          exact ⟨inner, .head inside within, aggregate⟩
  · rintro ⟨part, inside, aggregate⟩
    induction inside using Relation.ReflTransGen.head_induction_on with
    | refl => rw [containsAggregate_parts, aggregate, Bool.true_or]
    | head inside _ found =>
        rw [containsAggregate_parts, Bool.or_eq_true, List.any_eq_true]
        exact .inr ⟨_, inside, found⟩

end Expr

end StreamQuery
