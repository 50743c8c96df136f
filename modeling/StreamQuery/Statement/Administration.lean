import StreamQuery.ColumnType
import StreamQuery.StatementError
import StreamQuery.Text.Blank
/-!
# Administrative statements

Dropping and describing relations, listing what the engine holds, and ending queries.
-/

namespace StreamQuery

open Text

structure Drop where
  kind : RelationKind
  name : String
  ifExists : Bool
  deleteTopic : Bool
  deriving DecidableEq, Repr

def Drop.text (drop : Drop) : Written :=
  if isBlankText drop.name then
    .error (.emptyRelation "DROP")
  else
    .ok ("DROP " ++ drop.kind.keyword ++ (if drop.ifExists then " IF EXISTS" else "") ++ " " ++
      drop.name ++ (if drop.deleteTopic then " DELETE TOPIC" else "") ++ ";")

structure Describe where
  relation : String
  extended : Bool
  deriving DecidableEq, Repr

def Describe.text (describe : Describe) : Written :=
  if isBlankText describe.relation then
    .error (.emptyRelation "DESCRIBE")
  else
    .ok ("DESCRIBE " ++ describe.relation ++ (if describe.extended then " EXTENDED" else "") ++ ";")

inductive Listed where
  | streams
  | tables
  | topics
  | queries
  deriving DecidableEq, Repr

def Listed.keyword : Listed → String
  | .streams => "STREAMS"
  | .tables => "TABLES"
  | .topics => "TOPICS"
  | .queries => "QUERIES"

structure Listing where
  what : Listed
  extended : Bool
  deriving DecidableEq, Repr

def Listing.text (listing : Listing) : Written :=
  .ok ("LIST " ++ listing.what.keyword ++ (if listing.extended then " EXTENDED" else "") ++ ";")

inductive Terminate where
  | query (id : String)
  | all
  deriving DecidableEq, Repr

def Terminate.text : Terminate → Written
  | .all => .ok "TERMINATE ALL;"
  | .query id =>
      if isBlankText id then .error (.emptyRelation "TERMINATE")
      else .ok ("TERMINATE " ++ id ++ ";")

end StreamQuery
