import StreamQuery.ColumnType
import StreamQuery.ErrorCode
/-!
# Failures of statements

Why a statement or a part of it has no text. Nothing fails while a statement is put together; its
text is asked for once, and then the first cause found is given.
-/

namespace StreamQuery

/-- Why an operand does not suit its operator. Literals are shown by their text. -/
inductive OperandFault where
  | noLiteralForm (shown : String)
  | takesNoRight
  | missingRight
  | notOrderable (shown : String)
  | emptySet
  | notIterable (shown : String)
  | notAPattern
  | comparesNull
  | missingUpper
  | notScalar (shown : String)
  | belongsInHaving
  | aggregateNotAllowed
  | missingCondition
  deriving DecidableEq, Repr

def OperandFault.message : OperandFault → String
  | noLiteralForm shown => shown ++ " has no literal form"
  | takesNoRight => "takes no right-hand operand"
  | missingRight => "missing right-hand operand"
  | notOrderable shown => shown ++ " is not orderable"
  | emptySet => "set is empty"
  | notIterable shown => shown ++ " is not iterable"
  | notAPattern => "pattern must be a string"
  | comparesNull => "compare with NULL using IS NULL"
  | missingUpper => "missing upper bound"
  | notScalar shown => shown ++ " is not a scalar"
  | belongsInHaving => "aggregate functions belong in HAVING"
  | aggregateNotAllowed => "aggregate functions are not allowed here"
  | missingCondition => "missing ON condition"

inductive StatementError where
  | emptyColumn
  | emptyFieldList (part : String)
  | invalidOperand (operator : String) (fault : OperandFault)
  | invalidParameter (function : String) (value : Int)
  | missingAlias (part : String)
  | missingWhen
  | emptyList (connective : String)
  | invalidWindowDuration (window part : String) (value : Int)
  | unknownTimeUnit (text : String)
  | relationNotFound (relation : String)
  | fieldNotFound (field relation : String)
  | incompatibleJoin (left : String) (leftType : ColumnType) (right : String)
      (rightType : ColumnType)
  | notJoinable (field : String) (type : ColumnType)
  | missingJoinRelation
  | missingFrom
  | tableFromStream (table source : String)
  | streamFromTable (stream source : String)
  | tableFromWindow (table : String)
  | conflictingSource (relation : String)
  | missingSource (relation : String)
  | ambiguousPrimaryKey (relation first second : String)
  | conflictingInsert (relation : String)
  | emptyRelation (part : String)
  | unwritable (reason : String)
  deriving DecidableEq, Repr

namespace StatementError

def message : StatementError → String
  | emptyColumn => "field has an empty column name"
  | emptyFieldList part => part ++ " has an empty field list"
  | invalidOperand operator fault =>
      "invalid operand for " ++ operator ++ ": " ++ fault.message
  | invalidParameter function value =>
      "invalid parameter for " ++ function ++ ": " ++ toString value ++ " (must be > 0)"
  | missingAlias part => part ++ " requires a non-empty alias"
  | missingWhen => "CASE requires at least one WHEN/THEN pair"
  | emptyList connective => connective ++ " list is empty"
  | invalidWindowDuration window part value =>
      window ++ " window " ++ part ++ " must be > 0, got " ++ toString value
  | unknownTimeUnit text => "unknown time unit: " ++ text
  | relationNotFound relation => "relation " ++ relation ++ " not found in schema registry"
  | fieldNotFound field relation => "field " ++ field ++ " not found in relation " ++ relation
  | incompatibleJoin left leftType right rightType =>
      "cannot join " ++ left ++ " (" ++ leftType.text ++ ") with " ++ right ++ " (" ++
        rightType.text ++ "): kinds differ"
  | notJoinable field type =>
      "field " ++ field ++ " of kind " ++ type.text ++ " cannot be used as a join key"
  | missingJoinRelation => "join has no relation"
  | missingFrom => "SELECT has no FROM clause"
  | tableFromStream table source =>
      "cannot create table " ++ table ++ " from non-aggregated stream " ++ source
  | streamFromTable stream source =>
      "cannot create stream " ++ stream ++ " from table " ++ source
  | tableFromWindow table => "cannot create table " ++ table ++ " from a windowed select"
  | conflictingSource relation =>
      "CREATE " ++ relation ++ " has both field definitions and AS SELECT"
  | missingSource relation => "CREATE " ++ relation ++ " needs field definitions or AS SELECT"
  | ambiguousPrimaryKey relation first second =>
      "ambiguous primary key in " ++ relation ++ ": " ++ first ++ " and " ++ second
  | conflictingInsert relation =>
      "INSERT INTO " ++ relation ++ " has both values and a select"
  | emptyRelation part => part ++ " has an empty relation name"
  | unwritable reason => "cannot serialize value: " ++ reason

def code : StatementError → ErrorCode
  | emptyColumn | missingWhen | emptyList _ => .malformedExpression
  | emptyFieldList _ => .emptyFieldList
  | invalidOperand .. | unwritable _ => .invalidOperand
  | invalidParameter .. | invalidWindowDuration .. | unknownTimeUnit _ => .invalidParameter
  | missingAlias _ => .missingAlias
  | relationNotFound _ => .relationNotFound
  | fieldNotFound .. => .fieldNotFound
  | incompatibleJoin .. | notJoinable .. | missingJoinRelation => .incompatibleJoin
  | ambiguousPrimaryKey .. => .ambiguousPrimaryKey
  | missingFrom | tableFromStream .. | streamFromTable .. | tableFromWindow _
  | conflictingSource _ | missingSource _ | conflictingInsert _ | emptyRelation _ =>
      .invalidStatement

/-- A short name of the cause. -/
def label : StatementError → String
  | emptyColumn => "EmptyColumn"
  | emptyFieldList _ => "EmptyFieldList"
  | invalidOperand .. => "InvalidOperand"
  | invalidParameter .. => "InvalidParameter"
  | missingAlias _ => "MissingAlias"
  | missingWhen => "MissingWhen"
  | emptyList _ => "EmptyList"
  | invalidWindowDuration .. => "InvalidWindowDuration"
  | unknownTimeUnit _ => "UnknownTimeUnit"
  | relationNotFound _ => "RelationNotFound"
  | fieldNotFound .. => "FieldNotFound"
  | incompatibleJoin .. => "IncompatibleJoin"
  | notJoinable .. => "NotJoinable"
  | missingJoinRelation => "MissingJoinRelation"
  | missingFrom => "MissingFrom"
  | tableFromStream .. => "TableFromStream"
  | streamFromTable .. => "StreamFromTable"
  | tableFromWindow _ => "TableFromWindow"
  | conflictingSource _ => "ConflictingSource"
  | missingSource _ => "MissingSource"
  | ambiguousPrimaryKey .. => "AmbiguousPrimaryKey"
  | conflictingInsert _ => "ConflictingInsert"
  | emptyRelation _ => "EmptyRelation"
  | unwritable _ => "Serialize"

end StatementError

/-- The text of a part of a statement, or the reason why it has none. -/
abbrev Written := Except StatementError String

end StreamQuery
