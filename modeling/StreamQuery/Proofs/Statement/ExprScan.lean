import StreamQuery.Proofs.Expr.Shape
import StreamQuery.Proofs.Statement.LiteralScan
/-!
# What an expression shows to a scan

The strings of an expression are those of its literals, in the order in which they are written. The
names in it are written as they are.
-/

namespace StreamQuery

open Text

/-- The names of a reference to a column. -/
def FieldRef.names (field : FieldRef) : List String :=
  field.qualifier.toList ++ field.column :: field.aliasName.toList

mutual

/-- The strings of an expression in the order in which they are written. A set comparison has no
upper bound, and without a right-hand side none is written. -/
def Expr.strings : Expr → List String
  | .field _ => []
  | .literal value => value.strings
  | .comparison left op right upper =>
      left.strings ++ (optionStrings right ++
        if op.isSet || right.isNone then [] else optionStrings upper)
  | .junction _ members => memberStrings members
  | .negation inner => inner.strings
  | .arithmetic left _ right _ => left.strings ++ right.strings
  | .aggregate _ none _ => []
  | .aggregate _ (some argument) _ => argument.strings
  | .cases branches otherwise _ => branchStrings branches ++ optionStrings otherwise

def Operand.strings : Operand → List String
  | .value literal => literal.strings
  | .expr expr => expr.strings

def optionStrings : Option Operand → List String
  | none => []
  | some operand => operand.strings

def memberStrings : List Expr → List String
  | [] => []
  | member :: rest => member.strings ++ memberStrings rest

def branchStrings : List (Expr × Operand) → List String
  | [] => []
  | (condition, result) :: rest =>
      condition.strings ++ (result.strings ++ branchStrings rest)

end

mutual

/-- All names in an expression: columns, qualifiers and aliases. -/
def Expr.names : Expr → List String
  | .field reference => reference.names
  | .literal _ => []
  | .comparison left _ right upper => left.names ++ (optionNames right ++ optionNames upper)
  | .junction _ members => memberNames members
  | .negation inner => inner.names
  | .arithmetic left _ right aliasName => left.names ++ (right.names ++ aliasName.toList)
  | .aggregate _ none aliasName => aliasName.toList
  | .aggregate _ (some argument) aliasName => argument.names ++ aliasName.toList
  | .cases branches otherwise aliasName =>
      branchNames branches ++ (optionNames otherwise ++ aliasName.toList)

def Operand.names : Operand → List String
  | .value _ => []
  | .expr expr => expr.names

def optionNames : Option Operand → List String
  | none => []
  | some operand => operand.names

def memberNames : List Expr → List String
  | [] => []
  | member :: rest => member.names ++ memberNames rest

def branchNames : List (Expr × Operand) → List String
  | [] => []
  | (condition, result) :: rest => condition.names ++ (result.names ++ branchNames rest)

end

/-- Names without quotes, parentheses, square brackets and semicolons. -/
def AllInert (names : List String) : Prop :=
  ∀ name ∈ names, IsInert name

theorem AllInert.split {left right : List String} (inert : AllInert (left ++ right)) :
    AllInert left ∧ AllInert right :=
  ⟨fun name member => inert name (List.mem_append_left _ member),
    fun name member => inert name (List.mem_append_right _ member)⟩

theorem checkedText_shows {literal : Literal} {text : String}
    (written : literal.checkedText = .ok text) : Shows false text literal.strings [] [] := by
  unfold Literal.checkedText at written
  split at written
  · cases written
  · cases written
    exact literal.text_shows

theorem display_shows {field : FieldRef} (inert : AllInert field.names) :
    Shows true field.display [] [] [] := by
  have column : IsInert field.column := inert _ (by simp [FieldRef.names])
  unfold FieldRef.display
  split
  · next relation qualified =>
      have qualifier : IsInert relation := inert _ (by simp [FieldRef.names, qualified])
      exact ((Shows.inert qualifier).andThen "." [] (by decide)).append (.inert column)
  · exact .inert column

theorem operandText_field {field : FieldRef} {text : String} (inert : AllInert field.names)
    (written : field.operandText = .ok text) : Shows true text [] [] [] := by
  unfold FieldRef.operandText at written
  split at written
  · cases written
  · cases written
    exact display_shows inert

theorem itemTexts_show {items : List Literal} {texts : List String}
    (written : items.mapM Literal.checkedText = .ok texts) :
    ShowAll texts (Literal.itemStrings items) := by
  induction items generalizing texts with
  | nil =>
      cases written
      exact .nil
  | cons item rest induction =>
      rw [List.mapM_cons] at written
      obtain ⟨first, firstWritten, written⟩ := ok_of_bind written
      obtain ⟨others, othersWritten, written⟩ := ok_of_bind written
      cases written
      exact .cons (checkedText_shows firstWritten) (induction othersWritten)

/-- A set in round brackets. -/
theorem setText_shows {items : List Literal} {texts : List String}
    (written : items.mapM Literal.checkedText = .ok texts) :
    Shows false ("(" ++ joinWith ", " texts ++ ")") (Literal.itemStrings items) [] [] := by
  have opening : Shows true "(" [] [] [')'] := .frame (by decide)
  have body := opening.append (((itemTexts_show written).join ", " (by decide)).deepen [')'])
  exact (body.andThen ")" [] (by decide)).soften

/-- An operator between its operands. -/
theorem infix_shows {left right : String} {leftStrings rightStrings : List String} {op : String}
    (leftShows : Shows false left leftStrings [] []) (framed : isFrame [] op [] = true)
    (rightShows : Shows false right rightStrings [] []) :
    Shows false (left ++ " " ++ op ++ " " ++ right) (leftStrings ++ rightStrings) [] [] :=
  (((leftShows.andThen " " [] (by decide)).andThen op [] framed).andThen " " []
    (by decide)).append rightShows

theorem comparator_frame (op : Comparator) : isFrame [] op.text [] = true := by
  cases op <;> decide

theorem arithmetic_frame (op : ArithmeticOp) : isFrame [] op.mark [] = true := by
  cases op <;> decide

theorem callText_shows {function : AggregateFunction} {argument : String} {literals : List String}
    (shows : Shows false argument literals [] []) :
    Shows false (function.callText argument) literals [] [] := by
  have name : isFrame [] function.name [] = true := by
    unfold AggregateFunction.name
    split <;> decide
  have opening := (Shows.frame name).andThen "(" [')'] (by decide)
  have body := opening.append (shows.deepen [')'])
  unfold AggregateFunction.callText
  split
  · next value parameter =>
      have number := (Shows.inert (int_inert value)).deepen [')']
      have whole := (body.andThen ", " [')'] (by decide)).append number
      simpa using (whole.andThen ")" [] (by decide)).soften
  · exact (body.andThen ")" [] (by decide)).soften

mutual

theorem Expr.operandText_shows : (expr : Expr) → {text : String} → AllInert expr.names →
    expr.operandText = .ok text → Shows false text expr.strings [] []
  | .field reference, text, inert, written => by
      rw [Expr.operandText] at written
      exact (operandText_field inert written).soften
  | .literal value, text, inert, written => by
      rw [Expr.operandText] at written
      exact checkedText_shows written
  | .comparison left op right upper, text, inert, written => by
      have leftShows {text : String} (written : left.operandText = .ok text) :=
        left.operandText_shows inert.split.1 written
      have rightShows {text : String} (written : optionText right = some (.ok text)) :=
        optionText_shows right inert.split.2.split.1 written
      have upperShows {text : String} (written : optionText upper = some (.ok text)) :=
        optionText_shows upper inert.split.2.split.2 written
      cases Expr.comparison_shape written with
      | unary leftWritten isUnary =>
          have spaced := (leftShows leftWritten).andThen " " [] (by decide)
          have whole := spaced.andThen op.text [] (comparator_frame op)
          simpa [Expr.strings, optionStrings] using whole.soften
      | set leftWritten isSet itemsWritten =>
          have whole := infix_shows (leftShows leftWritten) (comparator_frame op)
            (setText_shows itemsWritten)
          simpa [Expr.strings, optionStrings, Operand.strings, Literal.strings, isSet] using whole
      | binary leftWritten rightWritten notUnary notSet notBetween =>
          have whole := infix_shows (leftShows leftWritten) (comparator_frame op)
            (rightShows (congrArg some rightWritten))
          simpa [Expr.strings, optionStrings] using whole
      | bounded leftWritten lowWritten highWritten notSet =>
          have lower := infix_shows (leftShows leftWritten) (comparator_frame op)
            (rightShows (congrArg some lowWritten))
          have whole := (lower.andThen " AND " [] (by decide)).append
            (upperShows (congrArg some highWritten))
          simpa [Expr.strings, optionStrings, notSet] using whole
  | .junction op members, text, inert, written => by
      have shows {texts : List String} (written : operandTexts members = .ok texts) :=
        memberTexts_show members inert written
      cases Expr.junction_shape written with
      | @single _ member _ memberWritten =>
          have shown := member.operandText_shows inert.split.1 memberWritten
          simpa [Expr.strings, memberStrings] using shown
      | junction membersWritten =>
          have separator : isFrame [] op.mark [] = true := by cases op <;> decide
          have inner := (shows membersWritten).join _ separator
          have opening : Shows true "(" [] [] [')'] := .frame (by decide)
          exact ((opening.append (inner.deepen [')'])).andThen ")" [] (by decide)).soften
  | .negation inner, text, inert, written => by
      cases Expr.shape written with
      | negation innerWritten =>
          have opening : Shows true "NOT (" [] [] [')'] := .frame (by decide)
          have body := opening.append ((inner.operandText_shows inert innerWritten).deepen [')'])
          exact (body.andThen ")" [] (by decide)).soften
  | .arithmetic left op right _, text, inert, written => by
      cases Expr.shape written with
      | arithmetic leftWritten rightWritten =>
          have leftShows := left.operandText_shows inert.split.1 leftWritten
          have rightShows := right.text_shows inert.split.2.split.1 rightWritten
          have opening : Shows true "( " [] [] [')'] := .frame (by decide)
          have inner := (leftShows.andThen op.mark [] (arithmetic_frame op)).append rightShows
          have whole := (opening.append (inner.deepen [')'])).andThen " )" [] (by decide)
          simpa [Expr.strings, String.append_assoc] using whole.soften
  | .aggregate function none _, text, inert, written => by
      cases Expr.shape written with
      | count =>
          have star : Shows true "*" [] [] [] := .frame (by decide)
          exact callText_shows star.soften
  | .aggregate function (some argument) _, text, inert, written => by
      cases Expr.shape written with
      | aggregate argumentWritten =>
          exact callText_shows (argument.operandText_shows inert.split.1 argumentWritten)
  | .cases branches otherwise aliasName, text, inert, written => by
      have lastShows {text : String} (written : (otherwise.getD (.value .null)).text = .ok text) :
          Shows false text (optionStrings otherwise) [] [] := by
        cases otherwise with
        | none =>
            rw [Option.getD_none, Operand.text] at written
            exact checkedText_shows written
        | some operand => exact operand.text_shows inert.split.2.split.1 written
      cases Expr.shape written with
      | cases branchesWritten otherwiseWritten =>
          have opening : Shows true "CASE" [] [] [] := .frame (by decide)
          have shown := branchTexts_show branches inert.split.1 branchesWritten opening.soften
          have whole := (shown.andThen " ELSE " [] (by decide)).append (lastShows otherwiseWritten)
          simpa [Expr.strings] using (whole.andThen " END" [] (by decide)).soften

theorem optionText_shows : (operand : Option Operand) → {text : String} →
    AllInert (optionNames operand) → optionText operand = some (.ok text) →
    Shows false text (optionStrings operand) [] []
  | none, text, inert, written => by cases written
  | some operand, text, inert, written => by
      exact operand.text_shows inert (Option.some.inj written)

theorem memberTexts_show : (members : List Expr) → {texts : List String} →
    AllInert (memberNames members) → operandTexts members = .ok texts →
    ShowAll texts (memberStrings members)
  | [], texts, inert, written => by
      cases written
      exact .nil
  | member :: rest, texts, inert, written => by
      rw [operandTexts] at written
      obtain ⟨first, firstWritten, written⟩ := ok_of_bind written
      obtain ⟨others, othersWritten, written⟩ := ok_of_bind written
      cases written
      exact .cons (member.operandText_shows inert.split.1 firstWritten)
        (memberTexts_show rest inert.split.2 othersWritten)

/-- Further branches, behind the first one. -/
theorem branchTexts_show : (branches : List (Expr × Operand)) → {text earlier : String} →
    {literals : List String} → AllInert (branchNames branches) →
    branchTexts branches = .ok text → Shows false earlier literals [] [] →
    Shows false (earlier ++ text) (literals ++ branchStrings branches) [] []
  | [], text, earlier, literals, inert, written, shows => by
      cases written
      simpa [branchStrings] using shows
  | (condition, result) :: rest, text, earlier, literals, inert, written, shows => by
      obtain ⟨conditionText, resultText, restText, conditionWritten, resultWritten, restWritten,
        rfl⟩ := Expr.branchTexts_cons written
      have conditionShows := condition.operandText_shows inert.split.1 conditionWritten
      have resultShows := result.text_shows inert.split.2.split.1 resultWritten
      have tested := (shows.andThen " WHEN " [] (by decide)).append conditionShows
      have branch := (tested.andThen " THEN " [] (by decide)).append resultShows
      have whole := branchTexts_show rest inert.split.2.split.2 restWritten branch
      simpa [branchStrings, String.append_assoc] using whole

theorem Operand.text_shows : (operand : Operand) → {text : String} → AllInert operand.names →
    operand.text = .ok text → Shows false text operand.strings [] []
  | .value literal, text, inert, written => by
      rw [Operand.text] at written
      exact checkedText_shows written
  | .expr expr, text, inert, written => by
      rw [Operand.text] at written
      exact expr.operandText_shows inert written

end

end StreamQuery
