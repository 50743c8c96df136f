import StreamQuery.Literal
import StreamQuery.StatementError
/-!
# Checked literals

The dialect has no literal for a double that is not finite, at any depth of a value.
-/

namespace StreamQuery.Literal

/-- The text of a literal that has one. -/
def checkedText (literal : Literal) : Written :=
  match literal.notFinite? with
  | some value => .error (.invalidOperand "literal" (.noLiteralForm value.toPositional))
  | none => .ok literal.text

end StreamQuery.Literal
