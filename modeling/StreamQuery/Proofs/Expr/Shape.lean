import StreamQuery.Expr.Text
import StreamQuery.Proofs.Results
/-!
# Shapes of texts of expressions

How the text of an expression is put together from the texts of its parts, one case for each form of
expression that has a text.
-/

namespace StreamQuery

open Text

def ArithmeticOp.mark (op : ArithmeticOp) : String :=
  " " ++ op.text ++ " "

def Connective.mark (op : Connective) : String :=
  " " ++ op.keyword ++ " "

namespace Expr

inductive Shape : Expr → String → Prop
  | field {reference : FieldRef} (written : reference.operandText = .ok reference.display) :
      Shape (.field reference) reference.display
  | literal {value : Literal} (written : value.checkedText = .ok value.text) :
      Shape (.literal value) value.text
  | unary {left : Expr} {op : Comparator} {upper : Option Operand} {leftText : String}
      (leftWritten : left.operandText = .ok leftText) (isUnary : op.isUnary = true) :
      Shape (.comparison left op none upper) (leftText ++ " " ++ op.text)
  | set {left : Expr} {op : Comparator} {items : List Literal} {upper : Option Operand}
      {leftText : String} {texts : List String} (leftWritten : left.operandText = .ok leftText)
      (isSet : op.isSet = true) (itemsWritten : items.mapM Literal.checkedText = .ok texts) :
      Shape (.comparison left op (some (.value (.array items))) upper)
        (leftText ++ " " ++ op.text ++ " " ++ ("(" ++ joinWith ", " texts ++ ")"))
  | binary {left : Expr} {op : Comparator} {right : Operand} {leftText rightText : String}
      (leftWritten : left.operandText = .ok leftText) (rightWritten : right.text = .ok rightText)
      (notUnary : op.isUnary = false) (notSet : op.isSet = false) (notBetween : op ≠ .between) :
      Shape (.comparison left op (some right) none) (leftText ++ " " ++ op.text ++ " " ++ rightText)
  | bounded {left : Expr} {op : Comparator} {low high : Operand} {leftText lowText highText : String}
      (leftWritten : left.operandText = .ok leftText) (lowWritten : low.text = .ok lowText)
      (highWritten : high.text = .ok highText) (notSet : op.isSet = false) :
      Shape (.comparison left op (some low) (some high))
        (leftText ++ " " ++ op.text ++ " " ++ lowText ++ " AND " ++ highText)
  | single {op : Connective} {member : Expr} {text : String}
      (written : member.operandText = .ok text) : Shape (.junction op [member]) text
  | junction {op : Connective} {first second : Expr} {rest : List Expr} {texts : List String}
      (written : operandTexts (first :: second :: rest) = .ok texts) :
      Shape (.junction op (first :: second :: rest)) ("(" ++ joinWith op.mark texts ++ ")")
  | negation {inner : Expr} {text : String} (written : inner.operandText = .ok text) :
      Shape (.negation inner) ("NOT (" ++ text ++ ")")
  | arithmetic {left : Expr} {op : ArithmeticOp} {right : Operand} {aliasName : Option String}
      {leftText rightText : String} (leftWritten : left.operandText = .ok leftText)
      (rightWritten : right.text = .ok rightText) :
      Shape (.arithmetic left op right aliasName)
        ("( " ++ leftText ++ op.mark ++ rightText ++ " )")
  | count {function : AggregateFunction} {aliasName : Option String} :
      Shape (.aggregate function none aliasName) (function.callText "*")
  | aggregate {function : AggregateFunction} {argument : Expr} {aliasName : Option String}
      {text : String} (written : argument.operandText = .ok text) :
      Shape (.aggregate function (some argument) aliasName) (function.callText text)
  | cases {branches : List (Expr × Operand)} {otherwise : Option Operand}
      {aliasName : Option String} {branchText otherwiseText : String}
      (branchesWritten : branchTexts branches = .ok branchText)
      (otherwiseWritten : (otherwise.getD (.value .null)).text = .ok otherwiseText) :
      Shape (.cases branches otherwise aliasName)
        ("CASE" ++ branchText ++ " ELSE " ++ otherwiseText ++ " END")

theorem checkedText_eq {value : Literal} {text : String} (written : value.checkedText = .ok text) :
    value.text = text := by
  unfold Literal.checkedText at written
  split at written
  · cases written
  · cases written
    rfl

theorem set_right {op : Comparator} (isSet : op.isSet = true) {shown : String} {right : Operand}
    {upper : Option Operand} (faultless : op.fault? shown (some right) upper = none) :
    ∃ items, right = .value (.array items) := by
  have suited : op.rightFault? shown right = none := by
    unfold Comparator.fault? at faultless
    simp only at faultless
    split at faultless
    · cases faultless
    · assumption
  cases op with
  | isIn | isNotIn =>
      unfold Comparator.rightFault? at suited
      simp only at suited
      split at suited
      · cases suited
      · exact ⟨_, rfl⟩
      · cases suited
  | _ => cases isSet

theorem notUnary_right {op : Comparator} {shown : String} {right : Operand} {upper : Option Operand}
    (faultless : op.fault? shown (some right) upper = none) : op.isUnary = false := by
  cases op with
  | isNull | isNotNull => cases faultless
  | _ => rfl

theorem notBetween_right {op : Comparator} {shown : String} {right : Operand}
    (faultless : op.fault? shown (some right) none = none) : op ≠ .between := by
  rintro rfl
  unfold Comparator.fault? at faultless
  simp only at faultless
  split at faultless
  · cases faultless
  · cases faultless

theorem comparison_shape {left : Expr} {op : Comparator} {right upper : Option Operand}
    {text : String} (written : operandText (.comparison left op right upper) = .ok text) :
    Shape (.comparison left op right upper) text := by
  rw [operandText] at written
  simp only at written
  split at written
  · cases written
  · next faultless =>
      obtain ⟨leftText, leftWritten, written⟩ := ok_of_bind written
      cases right with
      | none =>
          cases written
          unfold Comparator.fault? at faultless
          have isUnary : op.isUnary = true := by
            by_contra other
            simp [other] at faultless
          exact .unary leftWritten isUnary
      | some right =>
          have notUnary := notUnary_right faultless
          cases isSet : op.isSet with
          | true =>
              obtain ⟨items, rfl⟩ := set_right isSet faultless
              have setWritten : ∃ set, setText items = .ok set ∧
                  text = leftText ++ " " ++ op.text ++ " " ++ set := by
                cases upper with
                | none =>
                    simp only [optionText, isSet] at written
                    obtain ⟨set, setWritten, written⟩ := ok_of_bind written
                    cases written
                    exact ⟨set, setWritten, rfl⟩
                | some upper =>
                    simp only [optionText, isSet] at written
                    obtain ⟨set, setWritten, written⟩ := ok_of_bind written
                    cases written
                    exact ⟨set, setWritten, rfl⟩
              obtain ⟨set, setWritten, rfl⟩ := setWritten
              obtain ⟨texts, itemsWritten, rfl⟩ := ok_of_map setWritten
              exact .set leftWritten isSet itemsWritten
          | false =>
              cases upper with
              | none =>
                  simp only [optionText, isSet] at written
                  obtain ⟨rightText, rightWritten, written⟩ := ok_of_bind written
                  cases written
                  exact .binary leftWritten rightWritten notUnary isSet
                    (notBetween_right faultless)
              | some upper =>
                  simp only [optionText, isSet] at written
                  obtain ⟨lowText, lowWritten, written⟩ := ok_of_bind written
                  obtain ⟨highText, highWritten, written⟩ := ok_of_bind written
                  cases written
                  exact .bounded leftWritten lowWritten highWritten isSet

/-- The members of a junction are written one by one. -/
theorem operandTexts_eq (members : List Expr) :
    operandTexts members = members.mapM operandText := by
  induction members with
  | nil => rfl
  | cons first rest induction => rw [operandTexts, induction, List.mapM_cons]

theorem branchTexts_cons {condition : Expr} {result : Operand} {rest : List (Expr × Operand)}
    {text : String} (written : branchTexts ((condition, result) :: rest) = .ok text) :
    ∃ conditionText resultText restText, condition.operandText = .ok conditionText ∧
      result.text = .ok resultText ∧ branchTexts rest = .ok restText ∧
      text = " WHEN " ++ conditionText ++ " THEN " ++ resultText ++ restText := by
  rw [branchTexts] at written
  obtain ⟨conditionText, conditionWritten, written⟩ := ok_of_bind written
  obtain ⟨resultText, resultWritten, written⟩ := ok_of_bind written
  obtain ⟨restText, restWritten, written⟩ := ok_of_bind written
  cases written
  exact ⟨conditionText, resultText, restText, conditionWritten, resultWritten, restWritten, rfl⟩

theorem junction_shape {op : Connective} {members : List Expr} {text : String}
    (written : operandText (.junction op members) = .ok text) :
    Shape (.junction op members) text := by
  match members with
  | [] =>
      rw [operandText] at written
      cases written
  | [member] =>
      rw [operandText] at written
      exact .single written
  | first :: second :: rest =>
      rw [operandText] at written
      obtain ⟨firstText, firstWritten, written⟩ := ok_of_bind written
      obtain ⟨secondText, secondWritten, written⟩ := ok_of_bind written
      obtain ⟨restTexts, restWritten, written⟩ := ok_of_bind written
      cases written
      have all : operandTexts (first :: second :: rest) =
          .ok (firstText :: secondText :: restTexts) := by
        rw [operandTexts, operandTexts, firstWritten, secondWritten, restWritten]
        rfl
      exact .junction all

theorem cases_shape {branches : List (Expr × Operand)} {otherwise : Option Operand}
    {aliasName : Option String} {text : String}
    (written : operandText (.cases branches otherwise aliasName) = .ok text) :
    Shape (.cases branches otherwise aliasName) text := by
  unfold operandText at written
  split at written
  · cases written
  · cases written
  · next condition result rest _ _ =>
      obtain ⟨conditionText, conditionWritten, written⟩ := ok_of_bind written
      obtain ⟨resultText, resultWritten, written⟩ := ok_of_bind written
      obtain ⟨restText, restWritten, written⟩ := ok_of_bind written
      obtain ⟨otherwiseText, otherwiseWritten, written⟩ := ok_of_bind written
      cases written
      have all : branchTexts ((condition, result) :: rest) =
          .ok (" WHEN " ++ conditionText ++ " THEN " ++ resultText ++ restText) := by
        rw [branchTexts, conditionWritten, resultWritten, restWritten]
        rfl
      have last : (otherwise.getD (.value .null)).text = .ok otherwiseText := by
        cases otherwise with
        | none =>
            rw [← otherwiseWritten, Option.getD_none, Operand.text]
            rfl
        | some operand => exact otherwiseWritten
      have shape : Shape (.cases ((condition, result) :: rest) otherwise aliasName) _ :=
        .cases all last
      have same : "CASE" ++ (" WHEN " ++ conditionText ++ " THEN " ++ resultText ++ restText) ++
          " ELSE " ++ otherwiseText ++ " END" =
          "CASE WHEN " ++ conditionText ++ " THEN " ++ resultText ++ restText ++ " ELSE " ++
            otherwiseText ++ " END" := by
        simp [← String.toList_inj]
      exact same ▸ shape

theorem shape {expr : Expr} {text : String} (written : expr.operandText = .ok text) :
    Shape expr text := by
  cases expr with
  | field reference =>
      rw [operandText] at written
      have same : reference.display = text := by
        unfold FieldRef.operandText at written
        split at written
        · cases written
        · cases written
          rfl
      rw [← same] at written ⊢
      exact .field written
  | literal value =>
      rw [operandText] at written
      have same := checkedText_eq written
      rw [← same] at written ⊢
      exact .literal written
  | comparison left op right upper => exact comparison_shape written
  | junction op members => exact junction_shape written
  | negation inner =>
      rw [operandText] at written
      obtain ⟨innerText, innerWritten, written⟩ := ok_of_bind written
      cases written
      exact .negation innerWritten
  | arithmetic left op right aliasName =>
      rw [operandText] at written
      split at written
      · cases written
      · obtain ⟨leftText, leftWritten, written⟩ := ok_of_bind written
        obtain ⟨rightText, rightWritten, written⟩ := ok_of_bind written
        cases written
        have shape : Shape (.arithmetic left op right aliasName) _ :=
          .arithmetic leftWritten rightWritten
        have same : "( " ++ leftText ++ op.mark ++ rightText ++ " )" =
            "( " ++ leftText ++ " " ++ op.text ++ " " ++ rightText ++ " )" := by
          simp [← String.toList_inj, ArithmeticOp.mark]
        exact same ▸ shape
  | aggregate function argument aliasName =>
      rw [operandText.eq_def] at written
      simp only at written
      split at written
      · cases written
      · cases argument with
        | none =>
            cases written
            exact .count
        | some argument =>
            obtain ⟨argumentText, argumentWritten, written⟩ := ok_of_bind written
            cases written
            exact .aggregate argumentWritten
  | cases branches otherwise aliasName => exact cases_shape written

end Expr

end StreamQuery
