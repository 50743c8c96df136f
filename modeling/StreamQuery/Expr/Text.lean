import StreamQuery.Expr.Basic
/-!
# Texts of expressions

An expression is written as an operand, without its alias, or as an output column, with it. Either
all of its text is given or the first cause found against it: an operator checks its operands before
any of them is written.
-/

namespace StreamQuery

open Text

namespace Operand

/-- True for a literal that the operator's order does not cover. -/
def orderFault? : Operand → Option OperandFault
  | .value literal => if literal.isOrderable then none else some (.notOrderable literal.text)
  | .expr _ => none

/-- The literal of an operand given as one. -/
def literal? : Operand → Option Literal
  | .value literal => some literal
  | .expr _ => none

end Operand

namespace Comparator

/-- What a right-hand side does wrong, `shown` being its text. -/
def rightFault? (shown : String) (op : Comparator) (right : Operand) : Option OperandFault :=
  match op with
  | .greater | .greaterOrEqual | .less | .lessOrEqual | .between => right.orderFault?
  | .isIn | .isNotIn =>
      match right with
      | .value (.array []) => some .emptySet
      | .value (.array (_ :: _)) => none
      | _ => some (.notIterable shown)
  | .like =>
      match right with
      | .value (.string _) => none
      | _ => some .notAPattern
  | .equal | .notEqual =>
      match right with
      | .value .null => some .comparesNull
      | _ => none
  | .isNull | .isNotNull => some .takesNoRight

/-- What the operands of a comparison do wrong. -/
def fault? (shown : String) (op : Comparator) (right upper : Option Operand) :
    Option OperandFault :=
  match right with
  | none => if op.isUnary then none else some .missingRight
  | some right =>
      match op.rightFault? shown right with
      | some fault => some fault
      | none =>
          if op = .between then
            match upper with
            | none => some .missingUpper
            | some upper => upper.orderFault?
          else
            none

end Comparator

/-- The members of a set in parentheses. -/
def setText (items : List Literal) : Written :=
  (items.mapM Literal.checkedText).map fun texts => "(" ++ joinWith ", " texts ++ ")"

/-- The right-hand side of a set comparison: an array is written as a set. -/
def comparedSet (right : Option Operand) (written : Written) : Written :=
  match right with
  | some (.value (.array items)) => setText items
  | _ => written

/-- The call of an aggregate on the text of its argument. -/
def AggregateFunction.callText (function : AggregateFunction) (argument : String) : String :=
  match function.parameter? with
  | some value => function.name ++ "(" ++ argument ++ ", " ++ toString value ++ ")"
  | none => function.name ++ "(" ++ argument ++ ")"

/-- The parameter of an aggregate, when it is not positive. -/
def AggregateFunction.badParameter? (function : AggregateFunction) : Option Int :=
  function.parameter?.filter (· ≤ 0)

/-- What an arithmetic operator's right-hand side does wrong. -/
def arithmeticFault? : Operand → Option OperandFault
  | .value literal => if literal.isScalar then none else some (.notScalar literal.text)
  | .expr _ => none

mutual

/-- The text of an expression without its alias. -/
def Expr.operandText : Expr → Written
  | .field reference => reference.operandText
  | .literal value => value.checkedText
  | .comparison left op right upper =>
      let rightText := optionText right
      let upperText := optionText upper
      let shown :=
        match rightText with
        | some (.ok text) => text
        | _ => ""
      match op.fault? shown right upper with
      | some fault => .error (.invalidOperand op.text fault)
      | none => do
          let leftText ← left.operandText
          match rightText, upperText with
          | none, _ => pure (leftText ++ " " ++ op.text)
          | some low, some high =>
              if op.isSet then
                let set ← comparedSet right low
                pure (leftText ++ " " ++ op.text ++ " " ++ set)
              else
                let low ← low
                let high ← high
                pure (leftText ++ " " ++ op.text ++ " " ++ low ++ " AND " ++ high)
          | some only, none =>
              let only ← if op.isSet then comparedSet right only else only
              pure (leftText ++ " " ++ op.text ++ " " ++ only)
  | .junction op members =>
      match members with
      | [] => .error (.emptyList op.keyword)
      | [single] => single.operandText
      | first :: second :: rest => do
          let firstText ← first.operandText
          let secondText ← second.operandText
          let restTexts ← operandTexts rest
          pure ("(" ++ joinWith (" " ++ op.keyword ++ " ") (firstText :: secondText :: restTexts) ++
            ")")
  | .negation inner => do
      let innerText ← inner.operandText
      pure ("NOT (" ++ innerText ++ ")")
  | .arithmetic left op right _ =>
      match arithmeticFault? right with
      | some fault => .error (.invalidOperand op.text fault)
      | none => do
          let leftText ← left.operandText
          let rightText ← right.text
          pure ("( " ++ leftText ++ " " ++ op.text ++ " " ++ rightText ++ " )")
  | .aggregate function argument _ =>
      match function.badParameter? with
      | some value => .error (.invalidParameter function.name value)
      | none =>
          match argument with
          | none => .ok (function.callText "*")
          | some argument => do
              let argumentText ← argument.operandText
              pure (function.callText argumentText)
  | .cases branches otherwise aliasName =>
      match branches, givenAlias? aliasName with
      | [], _ => .error .missingWhen
      | _ :: _, none => .error (.missingAlias "CASE")
      | (condition, result) :: rest, some _ => do
          let conditionText ← condition.operandText
          let resultText ← result.text
          let restTexts ← branchTexts rest
          let otherwiseText ← (optionText otherwise).getD (.ok "NULL")
          pure ("CASE WHEN " ++ conditionText ++ " THEN " ++ resultText ++ restTexts ++ " ELSE " ++
            otherwiseText ++ " END")

/-- The text of an operand. -/
def Operand.text : Operand → Written
  | .value literal => literal.checkedText
  | .expr expr => expr.operandText

def optionText : Option Operand → Option Written
  | none => none
  | some operand => some operand.text

def operandTexts : List Expr → Except StatementError (List String)
  | [] => .ok []
  | expr :: rest => do
      let text ← expr.operandText
      let texts ← operandTexts rest
      pure (text :: texts)

/-- Further branches of a case distinction, each with a blank in front. -/
def branchTexts : List (Expr × Operand) → Written
  | [] => .ok ""
  | (condition, result) :: rest => do
      let conditionText ← condition.operandText
      let resultText ← result.text
      let restTexts ← branchTexts rest
      pure (" WHEN " ++ conditionText ++ " THEN " ++ resultText ++ restTexts)

end

/-- The text of an expression as an output column. -/
def Expr.text (expr : Expr) : Written := do
  let body ← expr.operandText
  match expr.aliasName? with
  | some name => pure (body ++ " AS " ++ name)
  | none => pure body

end StreamQuery
