import StreamQuery.Literal.Checked
import StreamQuery.Text.Blank
/-!
# Expressions

The trees that statements are made of: references to columns, literals, comparisons, junctions,
negations, arithmetic, aggregates and case distinctions. The right-hand side of an operator is an
operand, a literal or an expression. Some nodes carry an alias, which names them in the output.
-/

namespace StreamQuery

open Text

/-- A reference to a column, with the relation it belongs to where that is given. -/
structure FieldRef where
  qualifier : Option String
  column : String
  aliasName : Option String
  deriving DecidableEq, Repr

inductive Comparator where
  | equal
  | notEqual
  | greater
  | greaterOrEqual
  | less
  | lessOrEqual
  | like
  | isIn
  | isNotIn
  | isNull
  | isNotNull
  | between
  deriving DecidableEq, Repr

namespace Comparator

def all : List Comparator :=
  [equal, notEqual, greater, greaterOrEqual, less, lessOrEqual, like, isIn, isNotIn, isNull,
    isNotNull, between]

def text : Comparator → String
  | equal => "="
  | notEqual => "!="
  | greater => ">"
  | greaterOrEqual => ">="
  | less => "<"
  | lessOrEqual => "<="
  | like => "LIKE"
  | isIn => "IN"
  | isNotIn => "NOT IN"
  | isNull => "IS NULL"
  | isNotNull => "IS NOT NULL"
  | between => "BETWEEN"

def isOrdering : Comparator → Bool
  | greater | greaterOrEqual | less | lessOrEqual => true
  | _ => false

def isSet : Comparator → Bool
  | isIn | isNotIn => true
  | _ => false

/-- Comparators without a right-hand side. -/
def isUnary : Comparator → Bool
  | isNull | isNotNull => true
  | _ => false

end Comparator

inductive Connective where
  | and
  | or
  deriving DecidableEq, Repr

def Connective.keyword : Connective → String
  | .and => "AND"
  | .or => "OR"

inductive ArithmeticOp where
  | add
  | subtract
  | multiply
  | divide
  | modulo
  deriving DecidableEq, Repr

def ArithmeticOp.all : List ArithmeticOp :=
  [.add, .subtract, .multiply, .divide, .modulo]

def ArithmeticOp.text : ArithmeticOp → String
  | .add => "+"
  | .subtract => "-"
  | .multiply => "*"
  | .divide => "/"
  | .modulo => "%"

/-- Aggregate functions; three of them take a number besides their argument. -/
inductive AggregateFunction where
  | count
  | sum
  | average
  | minimum
  | maximum
  | collectList
  | collectSet
  | latestByOffset
  | earliestByOffset
  | topK (count : Int)
  | topKDistinct (count : Int)
  | histogram (buckets : Int)
  deriving DecidableEq, Repr

namespace AggregateFunction

/-- All functions, those with a number having the given ones. -/
def all (topCount distinctCount buckets : Int) : List AggregateFunction :=
  [count, sum, average, minimum, maximum, collectList, collectSet, latestByOffset,
    earliestByOffset, topK topCount, topKDistinct distinctCount, histogram buckets]

def name : AggregateFunction → String
  | count => "COUNT"
  | sum => "SUM"
  | average => "AVG"
  | minimum => "MIN"
  | maximum => "MAX"
  | collectList => "COLLECT_LIST"
  | collectSet => "COLLECT_SET"
  | latestByOffset => "LATEST_BY_OFFSET"
  | earliestByOffset => "EARLIEST_BY_OFFSET"
  | topK _ => "TOPK"
  | topKDistinct _ => "TOPKDISTINCT"
  | histogram _ => "HISTOGRAM"

def parameter? : AggregateFunction → Option Int
  | topK value | topKDistinct value | histogram value => some value
  | _ => none

end AggregateFunction

mutual

inductive Expr where
  | field (reference : FieldRef)
  | literal (value : Literal)
  | comparison (left : Expr) (op : Comparator) (right upper : Option Operand)
  | junction (op : Connective) (members : List Expr)
  | negation (inner : Expr)
  | arithmetic (left : Expr) (op : ArithmeticOp) (right : Operand) (aliasName : Option String)
  /-- An aggregate without argument counts all rows. -/
  | aggregate (function : AggregateFunction) (argument : Option Expr) (aliasName : Option String)
  | cases (branches : List (Expr × Operand)) (otherwise : Option Operand)
      (aliasName : Option String)

inductive Operand where
  | value (literal : Literal)
  | expr (expr : Expr)

end

/-- A blank alias counts as none. -/
def givenAlias? (aliasName : Option String) : Option String :=
  aliasName.filter fun name => !isBlankText name

namespace FieldRef

/-- Reads `relation.column` or `column`; a point in front does not qualify. -/
def parse (name : String) : FieldRef :=
  let trimmed := trimChars name.toList
  let qualifier := trimmed.takeWhile (· != '.')
  match trimmed.dropWhile (· != '.') with
  | _ :: column =>
      if qualifier.isEmpty then
        ⟨none, String.ofList trimmed, none⟩
      else
        ⟨some (String.ofList qualifier), String.ofList column, none⟩
  | [] => ⟨none, String.ofList trimmed, none⟩

/-- The reference as written, whether or not its column is named. -/
def display (field : FieldRef) : String :=
  match field.qualifier with
  | some relation => relation ++ "." ++ field.column
  | none => field.column

def operandText (field : FieldRef) : Written :=
  if isBlankText field.column then .error .emptyColumn else .ok field.display

end FieldRef

namespace Expr

/-- The name that an expression has in the output, if it has one. -/
def aliasName? : Expr → Option String
  | .field reference => givenAlias? reference.aliasName
  | .arithmetic _ _ _ aliasName | .aggregate _ _ aliasName | .cases _ _ aliasName =>
      givenAlias? aliasName
  | _ => none

/-- Sets the alias on nodes that can carry one. -/
def withAlias (aliasName : String) : Expr → Expr
  | .field reference => .field { reference with aliasName := some aliasName }
  | .arithmetic left op right _ => .arithmetic left op right (some aliasName)
  | .aggregate function argument _ => .aggregate function argument (some aliasName)
  | .cases branches otherwise _ => .cases branches otherwise (some aliasName)
  | expr => expr

end Expr

mutual

/-- True when an aggregate stands anywhere in the tree. -/
def Expr.containsAggregate : Expr → Bool
  | .field _ | .literal _ => false
  | .comparison left _ right upper =>
      left.containsAggregate || optionContainsAggregate right || optionContainsAggregate upper
  | .junction _ members => anyContainsAggregate members
  | .negation inner => inner.containsAggregate
  | .arithmetic left _ right _ => left.containsAggregate || right.containsAggregate
  | .aggregate .. => true
  | .cases branches otherwise _ =>
      branchContainsAggregate branches || optionContainsAggregate otherwise

def Operand.containsAggregate : Operand → Bool
  | .value _ => false
  | .expr expr => expr.containsAggregate

def optionContainsAggregate : Option Operand → Bool
  | none => false
  | some operand => operand.containsAggregate

def anyContainsAggregate : List Expr → Bool
  | [] => false
  | member :: rest => member.containsAggregate || anyContainsAggregate rest

def branchContainsAggregate : List (Expr × Operand) → Bool
  | [] => false
  | (condition, result) :: rest =>
      condition.containsAggregate || result.containsAggregate || branchContainsAggregate rest

end

end StreamQuery
