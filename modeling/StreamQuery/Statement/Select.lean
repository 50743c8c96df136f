import StreamQuery.Statement.Clause
import StreamQuery.Statement.Join
/-!
# Queries

A query is put together step by step and written at the end. A join is checked against the attached
registry when it is added; the first one refused is remembered, keeps later joins out and becomes
the failure of the query.
-/

namespace StreamQuery

open Text

structure Select where
  registry : Option Registry
  /-- Named queries that this one reads from. -/
  queries : List (String × Select)
  columns : List Expr
  source : Option Relation
  joins : List Join
  window : Option Window
  filter : Option Expr
  groupBy : Option (List Expr)
  having : Option Expr
  partitionBy : Option (List Expr)
  orderBy : Option (List (Expr × SortOrder))
  emitChanges : Bool
  limit : Option Nat
  fault : Option StatementError

namespace Select

def empty : Select :=
  ⟨none, [], [], none, [], none, none, none, none, none, none, false, none, none⟩

def withRegistry (registry : Registry) (select : Select) : Select :=
  { select with registry := some registry }

def withQuery (name : String) (query : Select) (select : Select) : Select :=
  { select with queries := select.queries ++ [(name, query)] }

def addColumns (columns : List Expr) (select : Select) : Select :=
  { select with columns := select.columns ++ columns }

def readFrom (relation : Relation) (select : Select) : Select :=
  { select with source := some relation }

/-- What keeps a join out of the query as it stands. -/
def joinFault? (join : Join) (select : Select) : Option StatementError :=
  match select.source with
  | none => some .missingFrom
  | some relation =>
      match select.registry with
      | none => none
      | some registry =>
          match join.validate registry relation select.joins with
          | .ok () => none
          | .error error => some error

def addJoin (join : Join) (select : Select) : Select :=
  match select.fault with
  | some _ => select
  | none =>
      match select.joinFault? join with
      | some error => { select with fault := some error }
      | none => { select with joins := select.joins ++ [join] }

def setWindow (window : Window) (select : Select) : Select :=
  { select with window := some window }

/-- The condition after one more has been added. -/
def alsoRequire (current : Option Expr) (condition : Expr) : Expr :=
  match current with
  | some existing => conjoin existing condition
  | none => condition

def addFilter (condition : Expr) (select : Select) : Select :=
  { select with filter := some (alsoRequire select.filter condition) }

def addHaving (condition : Expr) (select : Select) : Select :=
  { select with having := some (alsoRequire select.having condition) }

def setGroupBy (keys : List Expr) (select : Select) : Select :=
  { select with groupBy := some keys }

def setPartitionBy (keys : List Expr) (select : Select) : Select :=
  { select with partitionBy := some keys }

def setOrderBy (keys : List (Expr × SortOrder)) (select : Select) : Select :=
  { select with orderBy := some keys }

/-- Turns the query into one that never ends by itself. -/
def pushing (select : Select) : Select :=
  { select with emitChanges := true }

def setLimit (limit : Nat) (select : Select) : Select :=
  { select with limit := some limit }

/-- The kind of the source: declared, or that of its schema in the given registry, or in the
attached one when none is given. -/
def sourceKind? (registry : Option Registry) (select : Select) : Option RelationKind := do
  let relation ← select.source
  match relation.kind with
  | some kind => pure kind
  | none =>
      let registry ← registry <|> select.registry
      let schema ← registry.get? relation.name
      schema.kind

def isAggregated (select : Select) : Bool :=
  select.groupBy.isSome || select.columns.any Expr.containsAggregate

def isWindowed (select : Select) : Bool :=
  select.window.isSome

def limitText (limit : Nat) : Written :=
  if limit = 0 then .error (.invalidParameter "LIMIT" 0) else .ok ("LIMIT " ++ toString limit)

/-- A clause that may be missing, as a list of at most one text. -/
def optionalText {α : Type} (write : α → Written) : Option α →
    Except StatementError (List String)
  | none => .ok []
  | some part => (write part).map fun text => [text]

/-- Everything from the output columns on, clause by clause. -/
def clauseTexts (relation : Relation) (select : Select) :
    Except StatementError (List String) := do
  let columns ← select.columns.mapM Expr.text
  let from_ ← relation.text
  let joins ← select.joins.mapM Join.text
  let window ← optionalText Window.text select.window
  let filter ← optionalText whereText select.filter
  let groupBy ← optionalText groupByText select.groupBy
  let having ← optionalText havingText select.having
  let partitionBy ← optionalText partitionByText select.partitionBy
  let orderBy ← optionalText orderByText select.orderBy
  let limit ← optionalText limitText select.limit
  let changes := if select.emitChanges then ["EMIT CHANGES"] else []
  pure (["SELECT " ++ joinWith ", " columns, "FROM " ++ from_] ++ joins ++ window ++ filter ++
    groupBy ++ having ++ partitionBy ++ orderBy ++ changes ++ limit)

/-- What a query lacks before any of it is written. -/
def opening (select : Select) : Except StatementError Relation :=
  match select.fault with
  | some error => .error error
  | none =>
      if select.columns.isEmpty then
        .error (.emptyFieldList "SELECT")
      else
        match select.source with
        | none => .error .missingFrom
        | some relation => .ok relation

mutual

/-- The text of a query without its final semicolon. -/
def bodyText : Select → Written
  | ⟨registry, queries, columns, source, joins, window, filter, groupBy, having, partitionBy,
      orderBy, emitChanges, limit, fault⟩ => do
    let select : Select :=
      ⟨registry, queries, columns, source, joins, window, filter, groupBy, having, partitionBy,
        orderBy, emitChanges, limit, fault⟩
    let relation ← select.opening
    let queryTexts ← queryTexts queries
    let clauses ← select.clauseTexts relation
    let named := if queryTexts.isEmpty then [] else ["WITH " ++ joinWith ", " queryTexts]
    pure (joinWith " " (named ++ clauses))

/-- The named queries, each with its text in parentheses. -/
def queryTexts : List (String × Select) → Except StatementError (List String)
  | [] => .ok []
  | (name, query) :: rest =>
      if isBlankText name then
        .error (.missingAlias "WITH")
      else do
        let body ← bodyText query
        let others ← queryTexts rest
        pure ((name ++ " AS (" ++ body ++ ")") :: others)

end

def text (select : Select) : Written :=
  select.bodyText.map (· ++ ";")

end Select

end StreamQuery
