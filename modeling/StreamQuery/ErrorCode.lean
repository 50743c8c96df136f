/-!
# Error codes

Every failure carries one stable code. The number of a code is `256 · category + position`.
-/

namespace StreamQuery

inductive ErrorCode where
  | unknown
  | internal
  | cancelled
  | malformedExpression
  | invalidOperand
  | invalidParameter
  | missingAlias
  | emptyFieldList
  | incompatibleJoin
  | invalidStatement
  | fieldNotFound
  | kindMismatch
  | ambiguousPrimaryKey
  | unknownKind
  | relationNotFound
  | malformedSchema
  | cannotDial
  | cannotWrite
  | cannotRead
  | badStatus
  | tooManyRequests
  | rebalance
  | rebalanceExhausted
  | protocol
  | decodeFailed
  | configUnreadable
  | configMalformed
  | configInvalid
  deriving DecidableEq, Repr

namespace ErrorCode

/-- All codes, by growing number. -/
def all : List ErrorCode :=
  [unknown, internal, cancelled, malformedExpression, invalidOperand, invalidParameter,
    missingAlias, emptyFieldList, incompatibleJoin, invalidStatement, fieldNotFound, kindMismatch,
    ambiguousPrimaryKey, unknownKind, relationNotFound, malformedSchema, cannotDial, cannotWrite,
    cannotRead, badStatus, tooManyRequests, rebalance, rebalanceExhausted, protocol, decodeFailed,
    configUnreadable, configMalformed, configInvalid]

/-- Category and position within it. -/
def place : ErrorCode → Nat × Nat
  | unknown => (0, 0)
  | internal => (0, 1)
  | cancelled => (0, 2)
  | malformedExpression => (1, 0)
  | invalidOperand => (1, 1)
  | invalidParameter => (1, 2)
  | missingAlias => (1, 3)
  | emptyFieldList => (1, 4)
  | incompatibleJoin => (1, 5)
  | invalidStatement => (1, 6)
  | fieldNotFound => (2, 0)
  | kindMismatch => (2, 1)
  | ambiguousPrimaryKey => (2, 2)
  | unknownKind => (2, 3)
  | relationNotFound => (2, 4)
  | malformedSchema => (2, 5)
  | cannotDial => (3, 0)
  | cannotWrite => (3, 1)
  | cannotRead => (3, 2)
  | badStatus => (3, 3)
  | tooManyRequests => (3, 4)
  | rebalance => (3, 5)
  | rebalanceExhausted => (3, 6)
  | protocol => (3, 7)
  | decodeFailed => (4, 0)
  | configUnreadable => (5, 0)
  | configMalformed => (5, 1)
  | configInvalid => (5, 2)

def number (code : ErrorCode) : Nat :=
  256 * code.place.1 + code.place.2

def category (code : ErrorCode) : String :=
  match code.place.1 with
  | 0 => "General"
  | 1 => "Build"
  | 2 => "Schema"
  | 3 => "Transport"
  | 4 => "Decode"
  | _ => "Config"

def name : ErrorCode → String
  | unknown => "Unknown"
  | internal => "Internal"
  | cancelled => "Cancelled"
  | malformedExpression => "MalformedExpression"
  | invalidOperand => "InvalidOperand"
  | invalidParameter => "InvalidParameter"
  | missingAlias => "MissingAlias"
  | emptyFieldList => "EmptyFieldList"
  | incompatibleJoin => "IncompatibleJoin"
  | invalidStatement => "InvalidStatement"
  | fieldNotFound => "FieldNotFound"
  | kindMismatch => "KindMismatch"
  | ambiguousPrimaryKey => "AmbiguousPrimaryKey"
  | unknownKind => "UnknownKind"
  | relationNotFound => "RelationNotFound"
  | malformedSchema => "MalformedSchema"
  | cannotDial => "CannotDial"
  | cannotWrite => "CannotWrite"
  | cannotRead => "CannotRead"
  | badStatus => "BadStatus"
  | tooManyRequests => "TooManyRequests"
  | rebalance => "Rebalance"
  | rebalanceExhausted => "RebalanceExhausted"
  | protocol => "Protocol"
  | decodeFailed => "DecodeFailed"
  | configUnreadable => "ConfigUnreadable"
  | configMalformed => "ConfigMalformed"
  | configInvalid => "ConfigInvalid"

end ErrorCode

end StreamQuery
