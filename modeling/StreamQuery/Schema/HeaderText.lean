import StreamQuery.ColumnType.Parser
import StreamQuery.Schema
/-!
# Column lists

The compact schema text of a query header: columns separated by commas, each a name, a type and an
optional key marker. A name may stand between backquotes.
-/

namespace StreamQuery

open Text

/-- Pieces between the commas that stand outside brackets. -/
def splitColumns : Nat → List Char → List (List Char)
  | _, [] => [[]]
  | depth, c :: rest =>
      if c = ',' ∧ depth = 0 then
        [] :: splitColumns 0 rest
      else
        let inner :=
          if c = '<' ∨ c = '(' then depth + 1
          else if c = '>' ∨ c = ')' then depth - 1
          else depth
        match splitColumns inner rest with
        | [] => [[c]]
        | piece :: pieces => (c :: piece) :: pieces

/-- Name and remainder of a column; the remainder follows the closing backquote or the first blank
character. -/
def splitName? : List Char → Option (List Char × List Char)
  | '\x60' :: quoted =>
      match quoted.dropWhile (· != '\x60') with
      | _ :: rest => some (quoted.takeWhile (· != '\x60'), rest)
      | [] => none
  | column =>
      match column.dropWhile (fun c => !isBlank c) with
      | _ :: rest => some (column.takeWhile (fun c => !isBlank c), rest)
      | [] => none

/-- Drops an ending, compared in upper case. -/
def withoutEnding? (ending text : List Char) : Option (List Char) :=
  (ColumnType.after? ending.reverse (text.map Char.toUpper).reverse).map fun rest =>
    text.take rest.length

/-- Splits a key marker off the end of a type. -/
def splitMarker (text : List Char) : List Char × Bool :=
  match withoutEnding? " PRIMARY KEY".toList text with
  | some type => (dropTrailing isBlank type, true)
  | none =>
      match withoutEnding? " KEY".toList text with
      | some type => (dropTrailing isBlank type, true)
      | none => (text, false)

/-- Reads one trimmed column. -/
def parseColumn (column : List Char) : Except SchemaError Column :=
  let malformed : Except SchemaError Column := .error (.malformed (String.ofList column))
  match splitName? column with
  | none => malformed
  | some (name, rest) =>
      if name.isEmpty then
        malformed
      else
        let (typeText, primary) := splitMarker (trimChars rest)
        if typeText.isEmpty then
          malformed
        else
          match ColumnType.parseChars typeText with
          | .ok type =>
              .ok { Column.plain (String.ofList name) type with primary := primary }
          | .error error => .error error

/-- Reads a column list; pieces that hold only blanks are passed over. -/
def parseColumns (text : String) : Except SchemaError (List Column) :=
  let pieces := (splitColumns 0 text.toList).map trimChars
  (pieces.filter fun piece => !piece.isEmpty).mapM parseColumn

/-- The schema that a column list gives a relation. -/
def Schema.ofHeaderText (relation text : String) : Except SchemaError Schema := do
  let columns ← parseColumns text
  Schema.ofColumns relation columns

end StreamQuery
