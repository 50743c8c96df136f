import StreamQuery.Expr.Text
/-!
# Literals as operands

A literal reaches an operator as such or as an expression that is nothing but a literal. Operators
look at the literals given as such only. So `IN`, `NOT IN` and `LIKE` take no literal that is given
as an expression, and the operators that take expressions then take every literal, also those that
they refuse as such.
-/

namespace StreamQuery

/-- A text on either side of a mark. -/
def beside (left : Written) (mark : String) (right : Written) : Written := do
  let leftText ← left
  let rightText ← right
  pure (leftText ++ " " ++ mark ++ " " ++ rightText)

/-- What becomes of an operator and a literal, given as such and as an expression: the bare text if
the operator takes it so, and otherwise nothing. -/
structure Spellings (bare : Written) (takesLiteral takesExpr : Bool)
    (givenLiteral givenExpr : Written) : Prop where
  literal : givenLiteral.toOption = if takesLiteral then bare.toOption else none
  expr : givenExpr.toOption = if takesExpr then bare.toOption else none
  agree_iff : givenLiteral.toOption = givenExpr.toOption ↔
    takesLiteral = takesExpr ∨ bare.toOption = none

theorem spellings {bare givenLiteral givenExpr : Written} {takesLiteral takesExpr : Bool}
    (literal : givenLiteral.toOption = if takesLiteral then bare.toOption else none)
    (expr : givenExpr.toOption = if takesExpr then bare.toOption else none) :
    Spellings bare takesLiteral takesExpr givenLiteral givenExpr := by
  refine ⟨literal, expr, ?_⟩
  rw [literal, expr]
  cases takesLiteral <;> cases takesExpr <;> simp [eq_comm]

namespace Operand

/-- Operands that can be a bound; an expression always can. -/
def isBound (operand : Operand) : Bool :=
  operand.literal?.all Literal.isOrderable

theorem orderFault?_isNone (operand : Operand) : operand.orderFault?.isNone = operand.isBound := by
  cases operand with
  | value literal =>
      rw [orderFault?, isBound, literal?, Option.all_some]
      cases literal.isOrderable <;> rfl
  | expr inner => rfl

theorem arithmeticFault?_isNone (operand : Operand) :
    (arithmeticFault? operand).isNone = operand.literal?.all Literal.isScalar := by
  cases operand with
  | value literal =>
      rw [arithmeticFault?, literal?, Option.all_some]
      cases literal.isScalar <;> rfl
  | expr inner => rfl

theorem text_literal (value : Literal) :
    (Operand.expr (.literal value)).text = (Operand.value value).text := by
  rw [Operand.text, Operand.text, Expr.operandText]

end Operand

namespace Comparator

/-- The literals that may stand alone on the right of an operator. -/
def admits : Comparator → Literal → Bool
  | .greater, value | .greaterOrEqual, value | .less, value | .lessOrEqual, value =>
      value.isOrderable
  | .equal, value | .notEqual, value => !value.isNull
  | .like, .string _ => true
  | .isIn, .array (_ :: _) | .isNotIn, .array (_ :: _) => true
  | _, _ => false

/-- Operators that compare with any expression. -/
def takesExpr (op : Comparator) : Bool :=
  op.isOrdering || op == .equal || op == .notEqual

def takes (op : Comparator) : Operand → Bool
  | .value value => op.admits value
  | .expr _ => op.takesExpr

/-- Without an upper bound an operator finds no fault in exactly the operands it takes. -/
theorem fault?_isNone (op : Comparator) (shown : String) (right : Operand) :
    (op.fault? shown (some right) none).isNone = op.takes right := by
  cases op with
  | greater | greaterOrEqual | less | lessOrEqual =>
      cases right with
      | value literal =>
          have bound := Operand.orderFault?_isNone (.value literal)
          rw [takes, admits]
          cases fault : (Operand.value literal).orderFault? <;>
            simp_all [fault?, rightFault?, Operand.isBound, Operand.literal?]
      | expr inner => rfl
  | equal | notEqual =>
      cases right with
      | value literal => cases literal <;> rfl
      | expr inner => rfl
  | like =>
      cases right with
      | value literal => cases literal <;> rfl
      | expr inner => rfl
  | isIn | isNotIn =>
      cases right with
      | value literal =>
          cases literal with
          | array items => cases items <;> rfl
          | _ => rfl
      | expr inner => rfl
  | isNull | isNotNull => cases right <;> rfl
  | between =>
      cases right with
      | value literal =>
          cases fault : (Operand.value literal).orderFault? <;>
            simp [fault?, rightFault?, fault, takes, admits]
      | expr inner => rfl

/-- `BETWEEN` finds no fault in exactly the operands that can be bounds. -/
theorem between_fault?_isNone (shown : String) (low high : Operand) :
    (between.fault? shown (some low) (some high)).isNone = (low.isBound && high.isBound) := by
  rw [← Operand.orderFault?_isNone, ← Operand.orderFault?_isNone]
  cases lowFault : low.orderFault? <;> simp [fault?, rightFault?, lowFault]

end Comparator

namespace Expr

/-- The text of an operator and its right-hand side where nothing is refused. -/
def bareComparison (left : Expr) (op : Comparator) (right : Operand) : Written :=
  beside left.operandText op.text
    (if op.isSet then comparedSet (some right) right.text else right.text)

def bareBetween (left : Expr) (low high : Operand) : Written :=
  beside left.operandText "BETWEEN" (beside low.text "AND" high.text)

def bareArithmetic (left : Expr) (op : ArithmeticOp) (right : Operand) : Written :=
  (beside left.operandText op.text right.text).map fun text => "( " ++ text ++ " )"

theorem comparison_text (left : Expr) (op : Comparator) (right : Operand) :
    (Expr.comparison left op (some right) none).operandText.toOption =
      if op.takes right then (bareComparison left op right).toOption else none := by
  rw [operandText]
  simp only [optionText]
  generalize found : op.fault? _ (some right) none = fault
  rw [← op.fault?_isNone _ right, found]
  cases fault with
  | some fault => rfl
  | none =>
      rw [bareComparison]
      cases op.isSet <;> rfl

theorem between_text (left : Expr) (low high : Operand) :
    (Expr.comparison left .between (some low) (some high)).operandText.toOption =
      if low.isBound && high.isBound then (bareBetween left low high).toOption else none := by
  rw [operandText]
  simp only [optionText]
  generalize found : Comparator.between.fault? _ (some low) (some high) = fault
  rw [← Comparator.between_fault?_isNone _ low high, found]
  cases fault with
  | some fault => rfl
  | none =>
      rw [bareBetween, beside, beside]
      cases left.operandText with
      | error fault => rfl
      | ok leftText =>
          cases low.text with
          | error fault => rfl
          | ok lowText =>
              cases high.text with
              | error fault => rfl
              | ok highText =>
                  refine congrArg some ?_
                  simp only [Comparator.text, String.append_assoc]
                  rfl

theorem arithmetic_text (left : Expr) (op : ArithmeticOp) (right : Operand)
    (aliasName : Option String) :
    (Expr.arithmetic left op right aliasName).operandText.toOption =
      if right.literal?.all Literal.isScalar then (bareArithmetic left op right).toOption
      else none := by
  rw [operandText, ← Operand.arithmeticFault?_isNone]
  cases arithmeticFault? right with
  | some fault => rfl
  | none =>
      rw [bareArithmetic, beside]
      cases left.operandText with
      | error fault => rfl
      | ok leftText =>
          cases right.text with
          | error fault => rfl
          | ok rightText =>
              refine congrArg some ?_
              simp only [String.append_assoc]

theorem bareComparison_literal (left : Expr) (op : Comparator) (value : Literal)
    (comparing : op.takesExpr = true) :
    bareComparison left op (.expr (.literal value)) = bareComparison left op (.value value) := by
  have notSet : op.isSet = false := by
    cases op with
    | isIn | isNotIn => cases comparing
    | _ => rfl
  rw [bareComparison, bareComparison, notSet, Operand.text_literal]
  rfl

/-- Which literals an operator takes as such and which as expressions. The two differ for literals
without a place in the operator's order, for `NULL` beside `=` and `!=`, for the sets and patterns
of `IN`, `NOT IN` and `LIKE`, and for `NULL` and containers in arithmetic. -/
theorem literal_spellings (left : Expr) (value : Literal) :
    (∀ op, Spellings (bareComparison left op (.value value)) (op.admits value) op.takesExpr
      (Expr.comparison left op (some (.value value)) none).operandText
      (Expr.comparison left op (some (.expr (.literal value))) none).operandText) ∧
    (∀ high, Spellings (bareBetween left (.value value) high) (value.isOrderable && high.isBound)
      high.isBound
      (Expr.comparison left .between (some (.value value)) (some high)).operandText
      (Expr.comparison left .between (some (.expr (.literal value))) (some high)).operandText) ∧
    (∀ low, Spellings (bareBetween left low (.value value)) (low.isBound && value.isOrderable)
      low.isBound
      (Expr.comparison left .between (some low) (some (.value value))).operandText
      (Expr.comparison left .between (some low) (some (.expr (.literal value)))).operandText) ∧
    ∀ op aliasName, Spellings (bareArithmetic left op (.value value)) value.isScalar true
      (Expr.arithmetic left op (.value value) aliasName).operandText
      (Expr.arithmetic left op (.expr (.literal value)) aliasName).operandText := by
  refine ⟨fun op => ?_, fun high => ?_, fun low => ?_, fun op aliasName => ?_⟩
  · refine spellings (comparison_text left op _) ?_
    rw [comparison_text, Comparator.takes]
    cases comparing : op.takesExpr with
    | false => rfl
    | true => rw [bareComparison_literal left op value comparing]
  · refine spellings ?_ ?_
    · rw [between_text, Operand.isBound, Operand.literal?, Option.all_some]
    · rw [between_text, bareBetween, bareBetween, Operand.text_literal]
      rfl
  · refine spellings ?_ ?_
    · rw [between_text left low (.value value)]
      rfl
    · rw [between_text, bareBetween, bareBetween, Operand.text_literal, Operand.isBound,
        Operand.isBound, Operand.literal?, Option.all_none, Bool.and_true]
  · refine spellings ?_ ?_
    · rw [arithmetic_text, Operand.literal?, Option.all_some]
    · rw [arithmetic_text, bareArithmetic, bareArithmetic, Operand.text_literal]
      rfl

def flag : Expr := .field ⟨none, "flag", none⟩

/-- Literals that an operator refuses as such and takes as expressions, and the other way round. -/
theorem literal_spellings_differ :
    (Expr.comparison flag .greater (some (.value (.boolean true))) none).operandText.toOption
        = none ∧
      (Expr.comparison flag .greater (some (.expr (.literal (.boolean true)))) none).operandText
        = .ok "flag > TRUE" ∧
      (Expr.comparison flag .equal (some (.value .null)) none).operandText.toOption = none ∧
      (Expr.comparison flag .equal (some (.expr (.literal .null))) none).operandText
        = .ok "flag = NULL" ∧
      (Expr.comparison flag .between (some (.value (.integer 1)))
        (some (.value (.boolean true)))).operandText.toOption = none ∧
      (Expr.comparison flag .between (some (.value (.integer 1)))
        (some (.expr (.literal (.boolean true))))).operandText = .ok "flag BETWEEN 1 AND TRUE" ∧
      (Expr.arithmetic flag .add (.value .null) none).operandText.toOption = none ∧
      (Expr.arithmetic flag .add (.expr (.literal .null)) none).operandText
        = .ok "( flag + NULL )" ∧
      (Expr.comparison flag .isIn (some (.value (.array [.integer 1]))) none).operandText
        = .ok "flag IN (1)" ∧
      (Expr.comparison flag .isIn (some (.expr (.literal (.array [.integer 1]))))
        none).operandText.toOption = none :=
  ⟨rfl, rfl, rfl, rfl, rfl, rfl, rfl, rfl, rfl, rfl⟩

end Expr

end StreamQuery
