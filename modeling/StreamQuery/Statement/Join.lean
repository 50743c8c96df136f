import StreamQuery.Expr.Basic
import StreamQuery.Schema.Compare
import StreamQuery.Schema.Registry
import StreamQuery.Statement.Relation
import StreamQuery.Window
/-!
# Joins

A join brings a second relation to a query where two fields are equal: one of the query so far, one
of the joined relation. Both must be registered columns of one scalar type.
-/

namespace StreamQuery

open Text

inductive JoinKind where
  | inner
  | left
  | right
  | fullOuter
  deriving DecidableEq, Repr

def JoinKind.keyword : JoinKind → String
  | .inner => "INNER JOIN"
  | .left => "LEFT JOIN"
  | .right => "RIGHT JOIN"
  | .fullOuter => "FULL OUTER JOIN"

structure Join where
  kind : JoinKind
  relation : Relation
  /-- The field of the query so far and the field of the joined relation. -/
  condition : Option (FieldRef × FieldRef)
  within : Option Duration
  deriving Repr

namespace Join

def conditionOf (join : Join) : Except StatementError (FieldRef × FieldRef) :=
  match join.condition with
  | some condition => .ok condition
  | none => .error (.invalidOperand "JOIN" .missingCondition)

/-- The name of the relation that a field belongs to: the first that answers to its qualifier, or
the default of its side. -/
def relationOf (known : List Relation) (standard : Relation) (field : FieldRef) :
    Except StatementError String :=
  match field.qualifier with
  | none => .ok standard.name
  | some qualifier =>
      match known.find? (Relation.answersTo qualifier) with
      | some relation => .ok relation.name
      | none => .error (.relationNotFound qualifier)

def resolveField (registry : Registry) (known : List Relation) (standard : Relation)
    (field : FieldRef) : Except StatementError Column := do
  let relation ← relationOf known standard field
  registry.resolve relation field.column

def columnName (column : Column) : String :=
  column.relation ++ "." ++ column.name

def checkJoinable (column : Column) : Except StatementError Unit :=
  if column.type.isJoinable then .ok () else .error (.notJoinable (columnName column) column.type)

/-- Checks that both fields of the condition are columns that can be joined. -/
def validate (registry : Registry) (from_ : Relation) (previous : List Join) (join : Join) :
    Except StatementError Unit := do
  let (querySide, joinSide) ← join.conditionOf
  let known := from_ :: (previous.map Join.relation ++ [join.relation])
  let left ← resolveField registry known from_ querySide
  let right ← resolveField registry known join.relation joinSide
  checkJoinable left
  checkJoinable right
  match compareColumn? left right with
  | some _ =>
      .error (.incompatibleJoin (columnName left) left.type (columnName right) right.type)
  | none => .ok ()

def text (join : Join) : Written :=
  if isBlankText join.relation.name then
    .error .missingJoinRelation
  else do
    let (querySide, joinSide) ← join.conditionOf
    let relation ← join.relation.text
    let within ←
      match join.within with
      | some duration => (duration.checkedText "JOIN" "within").map (" WITHIN " ++ ·)
      | none => .ok ""
    let left ← querySide.operandText
    let right ← joinSide.operandText
    pure (join.kind.keyword ++ " " ++ relation ++ within ++ " ON " ++ left ++ " = " ++ right)

end Join

end StreamQuery
