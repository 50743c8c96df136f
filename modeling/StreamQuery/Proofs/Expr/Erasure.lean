import StreamQuery.Proofs.Expr.Parts
/-!
# What the text of an expression does not show

Aliases are left out of an operand, a list of one condition is written as the condition, and a
literal is the same on both sides of an operator. Besides, a comparison is written without
parentheses: where it is the last operand of another one, the text groups to the left. And a case
distinction without a last branch is written with NULL.
-/

namespace StreamQuery

def Operand.asExpr : Operand → Expr
  | .value literal => .literal literal
  | .expr inner => inner

namespace Expr

def asOperand : Expr → Operand
  | .literal value => .value value
  | expr => .expr expr

end Expr

mutual

/-- The expression with `change` made at each node, from the leaves up. -/
def Expr.rebuilt (change : Expr → Expr) : Expr → Expr
  | .field reference => change (.field reference)
  | .literal value => change (.literal value)
  | .comparison left op right upper =>
      change (.comparison (left.rebuilt change) op (rebuiltOption change right)
        (rebuiltOption change upper))
  | .junction op members => change (.junction op (rebuiltMembers change members))
  | .negation inner => change (.negation (inner.rebuilt change))
  | .arithmetic left op right aliasName =>
      change (.arithmetic (left.rebuilt change) op (right.rebuilt change) aliasName)
  | .aggregate function none aliasName => change (.aggregate function none aliasName)
  | .aggregate function (some argument) aliasName =>
      change (.aggregate function (some (argument.rebuilt change)) aliasName)
  | .cases branches otherwise aliasName =>
      change (.cases (rebuiltBranches change branches) (rebuiltOption change otherwise) aliasName)

def Operand.rebuilt (change : Expr → Expr) : Operand → Operand
  | .value literal => .value literal
  | .expr inner => .expr (inner.rebuilt change)

def rebuiltOption (change : Expr → Expr) : Option Operand → Option Operand
  | none => none
  | some operand => some (operand.rebuilt change)

def rebuiltMembers (change : Expr → Expr) : List Expr → List Expr
  | [] => []
  | member :: rest => member.rebuilt change :: rebuiltMembers change rest

def rebuiltBranches (change : Expr → Expr) : List (Expr × Operand) → List (Expr × Operand)
  | [] => []
  | (condition, result) :: rest =>
      (condition.rebuilt change, result.rebuilt change) :: rebuiltBranches change rest

end

@[simp] theorem rebuiltOption_eq (change : Expr → Expr) (operand : Option Operand) :
    rebuiltOption change operand = operand.map (Operand.rebuilt change) := by
  cases operand <;> rfl

@[simp] theorem rebuiltMembers_eq (change : Expr → Expr) (members : List Expr) :
    rebuiltMembers change members = members.map (Expr.rebuilt change) := by
  induction members with
  | nil => rfl
  | cons member rest induction => rw [rebuiltMembers, induction, List.map_cons]

@[simp] theorem rebuiltBranches_eq (change : Expr → Expr) (branches : List (Expr × Operand)) :
    rebuiltBranches change branches =
      branches.map (Prod.map (Expr.rebuilt change) (Operand.rebuilt change)) := by
  induction branches with
  | nil => rfl
  | cons branch rest induction =>
      rw [rebuiltBranches, induction, List.map_cons]
      rfl

namespace Expr

/-! ### Erasing -/

/-- A literal given as an expression is the literal. -/
def direct (operand : Operand) : Operand :=
  operand.asExpr.asOperand

def eraseNode : Expr → Expr
  | .field reference => .field { reference with aliasName := none }
  | .comparison left op right upper =>
      .comparison left op (right.map direct) (upper.map direct)
  | .junction _ [single] => single
  | .arithmetic left op right _ => .arithmetic left op (direct right) none
  | .aggregate function argument _ => .aggregate function argument none
  | .cases branches otherwise _ =>
      .cases (branches.map (Prod.map id direct)) (otherwise.map direct) none
  | expr => expr

/-- The expression without aliases and lists of one condition, each literal given as a value. -/
def erased (expr : Expr) : Expr :=
  expr.rebuilt eraseNode

/-! ### Regrouping -/

/-- Puts `wrap` around the first operand of a chain of comparisons. -/
def graft (wrap : Expr → Expr) : Expr → Expr
  | .comparison left op right upper => .comparison (left.graft wrap) op right upper
  | expr => wrap expr

def regroupNode : Expr → Expr
  | .comparison left op (some right) none =>
      right.asExpr.graft fun last => .comparison left op (some last.asOperand) none
  | .comparison left op (some low) (some high) =>
      high.asExpr.graft fun last => .comparison left op (some low) (some last.asOperand)
  | .cases branches none aliasName => .cases branches (some (.value .null)) aliasName
  | expr => expr

/-- The expression with the comparisons in a chain grouped to the left, and a last branch in each
case distinction. -/
def regrouped (expr : Expr) : Expr :=
  expr.rebuilt regroupNode

/-- What is left of an expression in its text. -/
def reading (expr : Expr) : Expr :=
  expr.erased.regrouped

def isComparison : Expr → Bool
  | .comparison .. => true
  | _ => false

@[simp] theorem graft_comparison (wrap : Expr → Expr) (left : Expr) (op : Comparator)
    (right upper : Option Operand) :
    graft wrap (.comparison left op right upper) = .comparison (left.graft wrap) op right upper :=
  rfl

theorem graft_of_not {expr : Expr} (other : expr.isComparison = false) (wrap : Expr → Expr) :
    expr.graft wrap = wrap expr := by
  cases expr with
  | comparison left op right upper => cases other
  | _ => rfl

@[simp] theorem graft_id (expr : Expr) : expr.graft id = expr := by
  induction expr using induction_on_parts with
  | step whole induction =>
      cases whole with
      | comparison left op right upper =>
          rw [graft_comparison, induction left List.mem_cons_self]
      | _ => rfl

theorem graft_graft {first second both : Expr → Expr}
    (composed : ∀ expr, (first expr).graft second = both expr) (expr : Expr) :
    (expr.graft first).graft second = expr.graft both := by
  induction expr using induction_on_parts with
  | step whole induction =>
      cases whole with
      | comparison left op right upper =>
          rw [graft_comparison, graft_comparison, graft_comparison,
            induction left List.mem_cons_self]
      | _ => exact composed _

theorem graft_isComparison {wrap : Expr → Expr} (compares : ∀ expr, (wrap expr).isComparison = true)
    (expr : Expr) : (expr.graft wrap).isComparison = true := by
  cases expr with
  | comparison left op right upper => rfl
  | _ => exact compares _

/-! ### What is read of each node -/

def isLiteral : Expr → Bool
  | .literal _ => true
  | _ => false

theorem asOperand_of_not {expr : Expr} (other : expr.isLiteral = false) :
    expr.asOperand = .expr expr := by
  cases expr with
  | literal value => cases other
  | _ => rfl

theorem regrouped_isLiteral (expr : Expr) : expr.regrouped.isLiteral = expr.isLiteral := by
  have compared {expr : Expr} (compares : expr.isComparison = true) : expr.isLiteral = false := by
    cases expr with
    | comparison left op right upper => rfl
    | _ => cases compares
  unfold regrouped
  cases expr with
  | comparison left op right upper =>
      cases right with
      | none => rfl
      | some right =>
          cases upper with
          | none => exact compared (graft_isComparison (fun _ => rfl) _)
          | some upper => exact compared (graft_isComparison (fun _ => rfl) _)
  | aggregate function argument aliasName => cases argument <;> rfl
  | cases branches otherwise aliasName => cases otherwise <;> rfl
  | _ => rfl

theorem direct_rebuilt_erase (operand : Operand) :
    direct (operand.rebuilt eraseNode) = operand.asExpr.erased.asOperand := by
  cases operand <;> rfl

theorem rebuilt_asOperand (expr : Expr) :
    expr.asOperand.rebuilt regroupNode = expr.regrouped.asOperand := by
  cases literal : expr.isLiteral with
  | true =>
      cases expr with
      | literal value => rfl
      | _ => cases literal
  | false =>
      have same : expr.regrouped.isLiteral = false := by rw [regrouped_isLiteral, literal]
      rw [asOperand_of_not literal, asOperand_of_not same]
      rfl

theorem operand_reading (operand : Operand) :
    (direct (operand.rebuilt eraseNode)).rebuilt regroupNode = operand.asExpr.reading.asOperand := by
  rw [direct_rebuilt_erase, rebuilt_asOperand, reading]

@[simp] theorem asExpr_asOperand (expr : Expr) : expr.asOperand.asExpr = expr := by
  cases expr <;> rfl

theorem reading_unary (left : Expr) (op : Comparator) :
    reading (.comparison left op none none) = .comparison left.reading op none none :=
  rfl

theorem reading_binary (left : Expr) (op : Comparator) (right : Operand) :
    reading (.comparison left op (some right) none) =
      right.asExpr.reading.graft fun last =>
        .comparison left.reading op (some last.asOperand) none := by
  change ((direct (right.rebuilt eraseNode)).rebuilt regroupNode).asExpr.graft
    (fun last => .comparison left.reading op (some last.asOperand) none) = _
  rw [operand_reading, asExpr_asOperand]

theorem reading_between (left : Expr) (op : Comparator) (low high : Operand) :
    reading (.comparison left op (some low) (some high)) =
      high.asExpr.reading.graft fun last =>
        .comparison left.reading op (some low.asExpr.reading.asOperand) (some last.asOperand) := by
  change ((direct (high.rebuilt eraseNode)).rebuilt regroupNode).asExpr.graft
    (fun last => .comparison left.reading op
      (some ((direct (low.rebuilt eraseNode)).rebuilt regroupNode)) (some last.asOperand)) = _
  rw [operand_reading, operand_reading, asExpr_asOperand]

theorem reading_single (op : Connective) (single : Expr) :
    reading (.junction op [single]) = single.reading :=
  rfl

theorem reading_junction (op : Connective) (first second : Expr) (rest : List Expr) :
    reading (.junction op (first :: second :: rest)) =
      .junction op ((first :: second :: rest).map reading) := by
  change Expr.junction op (rebuiltMembers regroupNode
    (rebuiltMembers eraseNode (first :: second :: rest))) = _
  rw [rebuiltMembers_eq, rebuiltMembers_eq, List.map_map]
  rfl

theorem reading_negation (inner : Expr) : reading (.negation inner) = .negation inner.reading :=
  rfl

theorem reading_arithmetic (left : Expr) (op : ArithmeticOp) (right : Operand)
    (aliasName : Option String) :
    reading (.arithmetic left op right aliasName) =
      .arithmetic left.reading op right.asExpr.reading.asOperand none := by
  change Expr.arithmetic left.reading op ((direct (right.rebuilt eraseNode)).rebuilt regroupNode)
    none = _
  rw [operand_reading]

theorem reading_count (function : AggregateFunction) (aliasName : Option String) :
    reading (.aggregate function none aliasName) = .aggregate function none none :=
  rfl

theorem reading_aggregate (function : AggregateFunction) (argument : Expr)
    (aliasName : Option String) :
    reading (.aggregate function (some argument) aliasName) =
      .aggregate function (some argument.reading) none :=
  rfl

/-- The last branch as it is written. -/
def fallback (otherwise : Option Operand) : Expr :=
  (otherwise.getD (.value .null)).asExpr

theorem reading_cases (branches : List (Expr × Operand)) (otherwise : Option Operand)
    (aliasName : Option String) :
    reading (.cases branches otherwise aliasName) =
      .cases (branches.map fun branch => (branch.1.reading, branch.2.asExpr.reading.asOperand))
        (some (fallback otherwise).reading.asOperand) none := by
  have each : rebuiltBranches regroupNode
        ((rebuiltBranches eraseNode branches).map (Prod.map id direct)) =
      branches.map fun branch => (branch.1.reading, branch.2.asExpr.reading.asOperand) := by
    rw [rebuiltBranches_eq, rebuiltBranches_eq, List.map_map, List.map_map]
    apply List.map_congr_left
    intro branch _
    exact congrArg (Prod.mk branch.1.reading) (operand_reading branch.2)
  rw [← each]
  cases otherwise with
  | none => rfl
  | some operand =>
      change Expr.cases _ (some ((direct (operand.rebuilt eraseNode)).rebuilt regroupNode)) none = _
      rw [operand_reading]
      rfl

/-! ### Expressions that are read as they are -/

/-- No comparison as the last operand of a comparison, and a last branch in a case distinction. -/
def isSettledNode : Expr → Bool
  | .comparison _ _ right upper =>
      (upper <|> right).all fun last => !last.asExpr.erased.isComparison
  | .cases _ otherwise _ => otherwise.isSome
  | _ => true

def Settled (expr : Expr) : Prop :=
  ∀ part, expr.Contains part → part.isSettledNode = true

theorem Settled.part {whole part : Expr} (settled : whole.Settled) (inside : part ∈ whole.parts) :
    part.Settled :=
  fun inner within => settled inner (.head inside within)

theorem erased_comparison (left : Expr) (op : Comparator) (right upper : Option Operand) :
    erased (.comparison left op right upper) =
      .comparison left.erased op (right.map fun operand => operand.asExpr.erased.asOperand)
        (upper.map fun operand => operand.asExpr.erased.asOperand) := by
  have each (operand : Option Operand) :
      (operand.map (Operand.rebuilt eraseNode)).map direct =
        operand.map fun operand => operand.asExpr.erased.asOperand := by
    cases operand with
    | none => rfl
    | some operand => simp [direct_rebuilt_erase]
  change Expr.comparison left.erased op ((rebuiltOption eraseNode right).map direct)
    ((rebuiltOption eraseNode upper).map direct) = _
  rw [rebuiltOption_eq, rebuiltOption_eq, each, each]

theorem reading_dangling (left : Expr) (op : Comparator) (upper : Operand) :
    reading (.comparison left op none (some upper)) =
      .comparison left.reading op none (some upper.asExpr.reading.asOperand) := by
  change Expr.comparison left.reading op none
    (some ((direct (upper.rebuilt eraseNode)).rebuilt regroupNode)) = _
  rw [operand_reading]

theorem erased_junction (op : Connective) (first second : Expr) (rest : List Expr) :
    erased (.junction op (first :: second :: rest)) =
      .junction op ((first :: second :: rest).map erased) := by
  change Expr.junction op (rebuiltMembers eraseNode (first :: second :: rest)) = _
  rw [rebuiltMembers_eq]
  rfl

theorem erased_arithmetic (left : Expr) (op : ArithmeticOp) (right : Operand)
    (aliasName : Option String) :
    erased (.arithmetic left op right aliasName) =
      .arithmetic left.erased op right.asExpr.erased.asOperand none := by
  change Expr.arithmetic left.erased op (direct (right.rebuilt eraseNode)) none = _
  rw [direct_rebuilt_erase]

theorem erased_cases (branches : List (Expr × Operand)) (otherwise : Operand)
    (aliasName : Option String) :
    erased (.cases branches (some otherwise) aliasName) =
      .cases (branches.map fun branch => (branch.1.erased, branch.2.asExpr.erased.asOperand))
        (some otherwise.asExpr.erased.asOperand) none := by
  have each : (rebuiltBranches eraseNode branches).map (Prod.map id direct) =
      branches.map fun branch => (branch.1.erased, branch.2.asExpr.erased.asOperand) := by
    rw [rebuiltBranches_eq, List.map_map]
    apply List.map_congr_left
    intro branch _
    exact congrArg (Prod.mk branch.1.erased) (direct_rebuilt_erase branch.2)
  change Expr.cases _ (some (direct (otherwise.rebuilt eraseNode))) none = _
  rw [← each, direct_rebuilt_erase]

theorem operand_settled {operand : Operand}
    (settled : ∀ inner ∈ operand.expr?, inner.reading = inner.erased) :
    operand.asExpr.reading = operand.asExpr.erased := by
  cases operand with
  | value literal => rfl
  | expr inner => exact settled inner rfl

/-- An expression with neither is read as it is but for what is erased. -/
theorem Settled.reading_eq {expr : Expr} (settled : expr.Settled) :
    expr.reading = expr.erased := by
  induction expr using induction_on_parts with
  | step whole induction =>
      have parts : ∀ part ∈ whole.parts, part.reading = part.erased :=
        fun part inside => induction part inside (settled.part inside)
      have node := settled whole .refl
      cases whole with
      | field reference => rfl
      | literal value => rfl
      | comparison left op right upper =>
          have leftRead : left.reading = left.erased := parts left List.mem_cons_self
          have sideRead : ∀ side ∈ right.toList ++ upper.toList,
              side.asExpr.reading = side.asExpr.erased := by
            intro side member
            apply operand_settled
            intro inner found
            exact parts inner (mem_parts_comparison found member)
          rw [erased_comparison]
          cases right with
          | none =>
              cases upper with
              | none => rw [reading_unary, leftRead]; rfl
              | some upper =>
                  have upperRead := sideRead upper (by simp)
                  rw [reading_dangling, leftRead, upperRead]
                  rfl
          | some right =>
              have rightRead := sideRead right (by simp)
              cases upper with
              | none =>
                  have apart : right.asExpr.erased.isComparison = false := by
                    simpa [isSettledNode] using node
                  rw [reading_binary, leftRead, rightRead, graft_of_not apart]
                  rfl
              | some upper =>
                  have upperRead := sideRead upper (by simp)
                  have apart : upper.asExpr.erased.isComparison = false := by
                    simpa [isSettledNode] using node
                  rw [reading_between, leftRead, rightRead, upperRead, graft_of_not apart]
                  rfl
      | junction op members =>
          match members with
          | [] => rfl
          | [single] => exact parts single List.mem_cons_self
          | first :: second :: rest =>
              have each : (first :: second :: rest).map reading =
                  (first :: second :: rest).map erased := List.map_congr_left parts
              rw [reading_junction, erased_junction, each]
      | negation inner =>
          rw [reading_negation, parts inner List.mem_cons_self]
          rfl
      | arithmetic left op right aliasName =>
          have rightRead : right.asExpr.reading = right.asExpr.erased := by
            apply operand_settled
            intro inner found
            exact parts inner (mem_parts_arithmetic found)
          rw [reading_arithmetic, erased_arithmetic, parts left List.mem_cons_self, rightRead]
      | aggregate function argument aliasName =>
          cases argument with
          | none => rfl
          | some argument =>
              rw [reading_aggregate, parts argument List.mem_cons_self]
              rfl
      | cases branches otherwise aliasName =>
          obtain ⟨last, given⟩ : ∃ last, otherwise = some last := Option.isSome_iff_exists.1 node
          rw [given] at parts ⊢
          have branchRead : ∀ branch ∈ branches,
              (branch.1.reading, branch.2.asExpr.reading.asOperand) =
                (branch.1.erased, branch.2.asExpr.erased.asOperand) := by
            intro branch member
            have result : branch.2.asExpr.reading = branch.2.asExpr.erased := by
              apply operand_settled
              intro inner found
              exact parts inner (mem_parts_result found member)
            rw [parts branch.1 (mem_parts_condition member), result]
          have lastRead : last.asExpr.reading = last.asExpr.erased := by
            apply operand_settled
            intro inner found
            exact parts inner (mem_parts_otherwise found)
          rw [reading_cases, erased_cases, List.map_congr_left branchRead, fallback,
            Option.getD_some, lastRead]

end Expr

end StreamQuery
