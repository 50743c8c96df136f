import StreamQuery.Schema
import StreamQuery.StatementError
/-!
# Registered schemas

The schemas known to a client, by upper-case relation name. A schema is replaced as a whole and
never edited in place.
-/

namespace StreamQuery

open Text

structure Registry where
  schemas : Keyed Schema
  deriving Repr

namespace Registry

def empty : Registry :=
  ⟨[]⟩

/-- Registers a schema under its own name. -/
def set (schema : Schema) (registry : Registry) : Registry :=
  ⟨Keyed.insert (upperCase schema.name) schema registry.schemas⟩

def ofList (schemas : List Schema) : Registry :=
  schemas.foldl (fun registry schema => registry.set schema) empty

/-- Looks a relation up, ignoring case. -/
def get? (relation : String) (registry : Registry) : Option Schema :=
  Keyed.find? (upperCase relation) registry.schemas

def remove (relation : String) (registry : Registry) : Registry :=
  ⟨Keyed.erase (upperCase relation) registry.schemas⟩

def clear (_ : Registry) : Registry :=
  empty

def contains (relation : String) (registry : Registry) : Bool :=
  (registry.get? relation).isSome

/-- Upper-case names of the registered relations, in order. -/
def relations (registry : Registry) : List String :=
  Keyed.keys registry.schemas

def size (registry : Registry) : Nat :=
  registry.schemas.length

/-- The column that a relation and a name stand for. -/
def resolve (relation column : String) (registry : Registry) : Except StatementError Column :=
  match registry.get? relation with
  | none => .error (.relationNotFound relation)
  | some schema =>
      match schema.get? column with
      | none => .error (.fieldNotFound column relation)
      | some found => .ok found

end Registry

end StreamQuery
