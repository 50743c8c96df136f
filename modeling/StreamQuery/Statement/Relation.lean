import StreamQuery.ColumnType
import StreamQuery.StatementError
import StreamQuery.Text.Ascii
import StreamQuery.Text.Blank
/-!
# Source relations

A relation named as the source of a query, under an alias where one is given. Its kind may be
declared; otherwise it is looked up when it matters.
-/

namespace StreamQuery

open Text

structure Relation where
  name : String
  aliasName : Option String
  kind : Option RelationKind
  deriving DecidableEq, Repr

namespace Relation

/-- True if a qualifier names the relation by alias or by name, ignoring case. -/
def answersTo (qualifier : String) (relation : Relation) : Bool :=
  (relation.aliasName.any fun name => sameWord name qualifier) ||
    sameWord relation.name qualifier

def text (relation : Relation) : Written :=
  if isBlankText relation.name then
    .error (.emptyRelation "FROM")
  else
    match relation.aliasName.filter fun name => !isBlankText name with
    | some name => .ok (relation.name ++ " " ++ name)
    | none => .ok relation.name

end Relation

end StreamQuery
