import StreamQuery.Expr.Text
/-!
# Clauses of a query

Filters, keys and orders. Row-level clauses take no aggregates: they have their place in the output
columns and behind HAVING.
-/

namespace StreamQuery

open Text

/-- Both conditions: a list of conditions grows, any other condition starts one. -/
def conjoin : Expr → Expr → Expr
  | .junction .and members, next => .junction .and (members ++ [next])
  | current, next => .junction .and [current, next]

def whereText (condition : Expr) : Written :=
  if condition.containsAggregate then
    .error (.invalidOperand "WHERE" .belongsInHaving)
  else
    condition.operandText.map ("WHERE " ++ ·)

def havingText (condition : Expr) : Written :=
  condition.operandText.map ("HAVING " ++ ·)

/-- A key of a row-level clause. -/
def keyText (clause : String) (key : Expr) : Written :=
  if key.containsAggregate then
    .error (.invalidOperand clause .aggregateNotAllowed)
  else
    key.operandText

/-- A clause of one or more keys. -/
def keysText (clause : String) (keys : List Expr) : Written :=
  if keys.isEmpty then
    .error (.emptyFieldList clause)
  else do
    let texts ← keys.mapM (keyText clause)
    pure (clause ++ " " ++ joinWith ", " texts)

def groupByText (keys : List Expr) : Written :=
  keysText "GROUP BY" keys

def partitionByText (keys : List Expr) : Written :=
  keysText "PARTITION BY" keys

inductive SortOrder where
  | ascending
  | descending
  deriving DecidableEq, Repr

def SortOrder.keyword : SortOrder → String
  | .ascending => "ASC"
  | .descending => "DESC"

def orderByText (keys : List (Expr × SortOrder)) : Written :=
  if keys.isEmpty then
    .error (.emptyFieldList "ORDER BY")
  else do
    let texts ← keys.mapM fun (key, order) => key.operandText.map (· ++ " " ++ order.keyword)
    pure ("ORDER BY " ++ joinWith ", " texts)

end StreamQuery
