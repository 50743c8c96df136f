import Mathlib.Logic.Relation
import StreamQuery.Statement
/-!
# The nodes of a statement

Everything that is put into a statement and has a text of its own: values and expressions, clauses,
joins, windows and whole queries. A node stands directly in another one when the other is built
from it; an upper bound does so only behind a right-hand side that is no set.
-/

namespace StreamQuery

open Text

inductive Node where
  | literal (value : Literal)
  | operand (operand : Operand)
  | reference (field : FieldRef)
  | expr (expr : Expr)
  /-- An expression as an output column. -/
  | output (column : Expr)
  | duration (window part : String) (duration : Duration)
  | window (window : Window)
  | relation (relation : Relation)
  | join (join : Join)
  | filter (condition : Expr)
  | groupBy (keys : List Expr)
  | having (condition : Expr)
  | partitionBy (keys : List Expr)
  | orderBy (keys : List (Expr × SortOrder))
  | limit (count : Nat)
  | query (select : Select)
  /-- A query that another one reads from by name. -/
  | namedQuery (name : String) (query : Select)
  | properties (metadata : Metadata)
  /-- A column of a relation to be created. -/
  | definition (column : Column)
  /-- A value of a row to be inserted. -/
  | entry (column : String) (value : Literal)
  | statement (statement : Statement)

namespace Node

/-- The text of a node by itself. -/
def text : Node → Written
  | .literal value => value.checkedText
  | .operand side => side.text
  | .reference field => field.operandText
  | .expr inner => inner.operandText
  | .output column => column.text
  | .duration owner part length => length.checkedText owner part
  | .window frame => frame.text
  | .relation source => source.text
  | .join joined => joined.text
  | .filter condition => whereText condition
  | .groupBy keys => groupByText keys
  | .having condition => havingText condition
  | .partitionBy keys => partitionByText keys
  | .orderBy keys => orderByText keys
  | .limit count => Select.limitText count
  | .query select => select.bodyText
  | .namedQuery name select =>
      if isBlankText name then .error (.missingAlias "WITH")
      else select.bodyText.map fun body => name ++ " AS (" ++ body ++ ")"
  | .properties metadata => metadata.text.map (·.getD "")
  | .definition column =>
      if isBlankText column.name then .error .emptyColumn
      else .ok (column.name ++ " " ++ column.type.text)
  | .entry column value =>
      if isBlankText column then .error .emptyColumn else value.checkedText
  | .statement whole => whole.text

/-- The right-hand sides of a comparison that are written. -/
def comparedOperands (op : Comparator) (right upper : Option Operand) : List Operand :=
  right.toList ++ if op.isSet || right.isNone then [] else upper.toList

/-- The nodes in the clauses of a query, its named queries left out. -/
def clauses (select : Select) : List Node :=
  select.columns.map .output ++ (select.source.toList.map .relation ++
    (select.joins.map .join ++ (select.window.toList.map .window ++
      (select.filter.toList.map .filter ++ (select.groupBy.toList.map .groupBy ++
        (select.having.toList.map .having ++ (select.partitionBy.toList.map .partitionBy ++
          (select.orderBy.toList.map .orderBy ++ select.limit.toList.map .limit))))))))

/-- The nodes that stand directly in a node. -/
def children : Node → List Node
  | .literal (.array items) => items.map .literal
  | .literal (.map entries) => entries.map fun entry => .literal entry.2
  | .literal _ => []
  | .operand (.value value) => [.literal value]
  | .operand (.expr inner) => [.expr inner]
  | .expr (.field field) => [.reference field]
  | .expr (.literal value) => [.literal value]
  | .expr (.comparison left op right upper) =>
      .expr left :: (comparedOperands op right upper).map .operand
  | .expr (.junction _ members) => members.map .expr
  | .expr (.negation inner) => [.expr inner]
  | .expr (.arithmetic left _ right _) => [.expr left, .operand right]
  | .expr (.aggregate _ argument _) => argument.toList.map .expr
  | .expr (.cases branches otherwise _) =>
      branches.flatMap (fun branch => [.expr branch.1, .operand branch.2]) ++
        otherwise.toList.map .operand
  | .output column => [.expr column]
  | .window frame =>
      frame.parts.map fun part => .duration frame.keyword part.2.1 part.2.2
  | .join joined =>
      .relation joined.relation :: (joined.within.toList.map (.duration "JOIN" "within") ++
        joined.condition.toList.flatMap fun sides => [.reference sides.1, .reference sides.2])
  | .filter condition | .having condition => [.expr condition]
  | .groupBy keys | .partitionBy keys => keys.map .expr
  | .orderBy keys => keys.map fun key => .expr key.1
  | .query select =>
      select.queries.map (fun named => .namedQuery named.1 named.2) ++ clauses select
  | .namedQuery _ select => [.query select]
  | .entry _ value => [.literal value]
  | .statement (.select select) => [.query select]
  | .statement (.create create) =>
      .properties create.metadata ::
        (create.columns.map .definition ++ create.source.toList.map .query)
  | .statement (.insert insert) =>
      insert.row.map (fun entry => .entry entry.1 entry.2) ++ insert.source.toList.map .query
  | .statement _ => []
  | .reference _ | .duration .. | .relation _ | .limit _ | .properties _ | .definition _ => []

/-- True of the node itself and of every node at any depth in it. -/
def Holds : Node → Node → Prop :=
  Relation.ReflTransGen fun node child => child ∈ node.children

/-- The node reached by choosing a child at each step. -/
def at? : List Nat → Node → Option Node
  | [], node => some node
  | index :: path, node => node.children[index]?.bind (at? path)

theorem holds_of_at? (path : List Nat) {node part : Node} (found : node.at? path = some part) :
    node.Holds part := by
  induction path generalizing node with
  | nil =>
      cases found
      exact .refl
  | cons index path induction =>
      obtain ⟨child, here, found⟩ := Option.bind_eq_some_iff.1 found
      exact .head (List.mem_of_getElem? here) (induction found)

end Node

end StreamQuery
