import StreamQuery.Statement.Administration
import StreamQuery.Statement.Create
import StreamQuery.Statement.Insert
/-!
# Statements

Any statement that the engine accepts. Queries have an endpoint of their own.
-/

namespace StreamQuery

/-- Where queries are posted to. -/
def queryEndpoint : String := "/query"

/-- Where all other statements are posted to. -/
def statementEndpoint : String := "/ksql"

inductive Statement where
  | select (select : Select)
  | create (create : Create)
  | insert (insert : Insert)
  | drop (drop : Drop)
  | describe (describe : Describe)
  | list (listing : Listing)
  | terminate (terminate : Terminate)

namespace Statement

def text : Statement → Written
  | .select statement => statement.text
  | .create statement => statement.text
  | .insert statement => statement.text
  | .drop statement => statement.text
  | .describe statement => statement.text
  | .list statement => statement.text
  | .terminate statement => statement.text

def endpoint : Statement → String
  | .select _ => queryEndpoint
  | _ => statementEndpoint

def name : Statement → String
  | .select _ => "SELECT"
  | .create _ => "CREATE"
  | .insert _ => "INSERT"
  | .drop _ => "DROP"
  | .describe _ => "DESCRIBE"
  | .list _ => "LIST"
  | .terminate _ => "TERMINATE"

/-- A query that emits changes is answered by a stream. -/
def isPush : Statement → Bool
  | .select statement => statement.emitChanges
  | _ => false

end Statement

end StreamQuery
