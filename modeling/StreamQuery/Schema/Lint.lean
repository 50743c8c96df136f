import StreamQuery.Record.Basic
import StreamQuery.Schema.Compare
import StreamQuery.Schema.Registry
/-!
# Checking record types

A record type fits a relation when its schema agrees with the registered one.
-/

namespace StreamQuery

/-- Checks a record type against the registered schema of a relation. -/
def Registry.lint (registry : Registry) (relation : String) (record : RecordType) :
    Except SchemaError Unit :=
  match registry.get? relation with
  | none => .error (.relationNotFound relation)
  | some registered => do
      let native ← Schema.ofRecord relation record
      registered.check native

end StreamQuery
