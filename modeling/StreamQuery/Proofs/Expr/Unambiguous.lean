import StreamQuery.Proofs.Expr.ReadBack
/-!
# How far a text determines its expression

Two expressions over plain names and without doubles that have one text are the same up to what the
text leaves out. How comparisons are grouped that stand directly in comparisons, and whether the last
branch of a case distinction was given as NULL or not at all, no text shows.
-/

namespace StreamQuery.Expr

/-- Plain expressions with one text are equal once erased and regrouped. Erasing is enough where no
comparison is the last operand of a comparison and each case distinction has a last branch. -/
theorem text_determines {first second : Expr} (firstPlain : first.Plain)
    (secondPlain : second.Plain) {text : String} (firstWritten : first.operandText = .ok text)
    (secondWritten : second.operandText = .ok text) :
    first.erased.regrouped = second.erased.regrouped ∧
      (first.Settled → second.Settled → first.erased = second.erased) := by
  have same := reading_eq_of_text firstPlain secondPlain firstWritten secondWritten
  refine ⟨same, ?_⟩
  intro firstSettled secondSettled
  rw [← firstSettled.reading_eq, ← secondSettled.reading_eq, same]

/-! ### Expressions at which it is seen -/

def named (column : String) : Expr :=
  .field ⟨none, column, none⟩

def equals (left : Expr) (right : Operand) : Expr :=
  .comparison left .equal (some right) none

def when_ (condition : Expr) (result : Operand) (otherwise : Option Operand) : Expr :=
  .cases [(condition, result)] otherwise (some "chosen")

theorem plain_named {column : String} (identifier : isIdentifier column = true) :
    (named column).Plain := by
  apply plain_of_parts
  · simp [named, isPlainNode, FieldRef.isPlain, identifier]
  · intro part inside
    cases inside

theorem plain_equals {left : Expr} {right : Operand} (leftPlain : left.Plain)
    (free : right.isDoubleFree = true) (rightPlain : ∀ inner ∈ right.expr?, inner.Plain) :
    (equals left right).Plain := by
  apply plain_of_parts
  · simp [equals, isPlainNode, free]
  · intro part inside
    rcases List.mem_cons.1 inside with rfl | inside
    · exact leftPlain
    · obtain ⟨operand, member, found⟩ := List.mem_filterMap.1 inside
      have same : operand = right := by simpa using member
      rw [same] at found
      exact rightPlain part found

theorem plain_when {condition : Expr} (conditionPlain : condition.Plain)
    (otherwise : Option Literal) (free : otherwise.all Literal.isDoubleFree = true) :
    (when_ condition (.value (.integer 1)) (otherwise.map .value)).Plain := by
  apply plain_of_parts
  · cases otherwise with
    | none => rfl
    | some value => simpa [when_, isPlainNode, Operand.isDoubleFree, Literal.isDoubleFree] using free
  · intro part inside
    have same : part = condition := by
      cases otherwise <;> simpa [when_, parts, Operand.expr?] using inside
    rw [same]
    exact conditionPlain

/-- An alias, a list of one condition and a literal given as an expression leave no trace. -/
theorem wrapped_equals_determined :
    let bare := equals (named "qty") (.value (.integer 5))
    let wrapped := Expr.junction .and
      [equals (.field ⟨none, "qty", some "amount"⟩) (.expr (.literal (.integer 5)))]
    bare.Plain ∧ wrapped.Plain ∧ bare.operandText = .ok "qty = 5" ∧
      wrapped.operandText = .ok "qty = 5" ∧
      bare.erased.regrouped = wrapped.erased.regrouped ∧
      (bare.Settled → wrapped.Settled → bare.erased = wrapped.erased) := by
  intro bare wrapped
  have barePlain : bare.Plain :=
    plain_equals (plain_named (by decide)) rfl (fun _ found => by cases found)
  have fieldPlain : (Expr.field ⟨none, "qty", some "amount"⟩).Plain :=
    plain_of_parts (by decide) (fun _ inside => by cases inside)
  have literalPlain : (Expr.literal (.integer 5)).Plain :=
    plain_of_parts rfl (fun _ inside => by cases inside)
  have wrappedPlain : wrapped.Plain := by
    apply plain_of_parts rfl
    intro part inside
    cases List.mem_singleton.1 inside
    apply plain_equals fieldPlain rfl
    intro inner found
    cases found
    exact literalPlain
  have bareWritten : bare.operandText = .ok "qty = 5" := by rfl
  have wrappedWritten : wrapped.operandText = .ok "qty = 5" := by rfl
  exact ⟨barePlain, wrappedPlain, bareWritten, wrappedWritten,
    text_determines barePlain wrappedPlain bareWritten wrappedWritten⟩

/-- Plain expressions of one text that differ after erasing. -/
structure Confused (first second : Expr) : Prop where
  firstPlain : first.Plain
  secondPlain : second.Plain
  text : ∃ text, first.operandText = .ok text ∧ second.operandText = .ok text
  different : first.erased ≠ second.erased

/-- Comparisons in a chain read the same however they are grouped, and a missing last branch reads
as NULL. -/
theorem grouping_and_else_confused :
    Confused (equals (equals (named "a") (.expr (named "b"))) (.expr (named "c")))
        (equals (named "a") (.expr (equals (named "b") (.expr (named "c"))))) ∧
      Confused (when_ (named "a") (.value (.integer 1)) none)
        (when_ (named "a") (.value (.integer 1)) (some (.value .null))) := by
  have letter {column : String} (identifier : isIdentifier column = true) {left : Expr}
      (leftPlain : left.Plain) : (equals left (.expr (named column))).Plain := by
    apply plain_equals leftPlain rfl
    intro inner found
    cases found
    exact plain_named identifier
  have a : (named "a").Plain := plain_named (by decide)
  have b : (named "b").Plain := plain_named (by decide)
  constructor
  · refine ⟨letter (by decide) (letter (by decide) a), ?_, ⟨"a = b = c", by rfl, by rfl⟩, ?_⟩
    · apply plain_equals a rfl
      intro inner found
      cases found
      exact letter (by decide) b
    · intro same
      cases same
  · refine ⟨plain_when a none rfl, plain_when a (some .null) rfl,
      ⟨"CASE WHEN a THEN 1 ELSE NULL END", by rfl, by rfl⟩, ?_⟩
    intro same
    cases same

end StreamQuery.Expr
