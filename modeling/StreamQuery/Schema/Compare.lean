import StreamQuery.Schema
/-!
# Comparing schemas

Two schemas agree when they have the same columns, ignoring case, with the same types. The
differences are listed by growing upper-case name.
-/

namespace StreamQuery

open Text

/-- The difference between two columns that should have one type. -/
def compareColumn? (expected actual : Column) : Option FieldMismatch :=
  if expected.type = actual.type then
    none
  else
    some (.differs actual.name expected.type actual.type)

namespace Schema

/-- The upper-case names of either schema, in order, each once. -/
def sharedNames (expected actual : Schema) : List String :=
  Keyed.keys
    (Keyed.ofList ((Keyed.keys expected.columns ++ Keyed.keys actual.columns).map (·, ())))

/-- The difference under one name. -/
def compareName? (expected actual : Schema) (name : String) : Option FieldMismatch :=
  match expected.get? name, actual.get? name with
  | some left, some right => compareColumn? left right
  | some left, none => some (.missing left.name actual.name)
  | none, some right => some (.missing right.name expected.name)
  | none, none => none

/-- All differences, by growing upper-case name. -/
def differences (expected actual : Schema) : List FieldMismatch :=
  (sharedNames expected actual).filterMap (compareName? expected actual)

/-- Fails with all differences if there are any. -/
def check (expected actual : Schema) : Except SchemaError Unit :=
  match differences expected actual with
  | [] => .ok ()
  | found => .error (.mismatches expected.name found)

end Schema

end StreamQuery
