import StreamQuery.Schema.Error
import StreamQuery.Text.Blank
/-!
# Reading column types

A type name is read without regard to ASCII case and surrounding blanks. Some scalars have several
names. The text between the angle brackets of a container is read by the same rules, so the reader
follows the nesting and ends on every text.
-/

namespace StreamQuery.ColumnType

open Text

/-- What follows a leading part of the text. -/
def after? : List Char → List Char → Option (List Char)
  | [], text => some text
  | _ :: _, [] => none
  | c :: part, d :: text => if c = d then after? part text else none

/-- The text between `name<` and the closing bracket at the very end. -/
def between? (name text : List Char) : Option (List Char) :=
  match after? name text with
  | none => none
  | some rest =>
      match dropBlanks rest with
      | '<' :: body => if body.getLast? = some '>' then some body.dropLast else none
      | _ => none

/-- Cuts at the first comma outside brackets; a closing bracket too many is passed over. -/
def cutAtComma? : Nat → List Char → Option (List Char × List Char)
  | _, [] => none
  | depth, c :: rest =>
      if c = ',' ∧ depth = 0 then
        some ([], rest)
      else
        let inner :=
          if c = '<' ∨ c = '(' then depth + 1
          else if c = '>' ∨ c = ')' then depth - 1
          else depth
        (cutAtComma? inner rest).map fun (before, behind) => (c :: before, behind)

theorem length_after? {part text rest : List Char} (found : after? part text = some rest) :
    rest.length ≤ text.length := by
  induction part generalizing text with
  | nil => simp [after?] at found; simp [found]
  | cons c part ih =>
      cases text with
      | nil => simp [after?] at found
      | cons d text =>
          simp only [after?] at found
          split at found
          · have := ih found
            simp; omega
          · cases found

theorem length_between? {name text inner : List Char} (found : between? name text = some inner) :
    inner.length < text.length := by
  unfold between? at found
  split at found
  · cases found
  · rename_i rest hrest
    have restLength := length_after? hrest
    split at found
    · rename_i body hbody
      split at found
      · cases found
        have dropped : ('<' :: body).length ≤ rest.length := by
          rw [← hbody]
          exact (List.dropWhile_sublist _).length_le
        simp at dropped ⊢
        omega
      · cases found
    · cases found

theorem length_cutAtComma? {depth : Nat} {text before behind : List Char}
    (found : cutAtComma? depth text = some (before, behind)) :
    before.length + behind.length < text.length := by
  induction text generalizing depth before behind with
  | nil => simp [cutAtComma?] at found
  | cons c rest ih =>
      unfold cutAtComma? at found
      split at found
      · cases found; simp
      · simp only [Option.map_eq_some_iff] at found
        obtain ⟨⟨innerBefore, innerBehind⟩, hinner, heq⟩ := found
        cases heq
        have := ih hinner
        simp; omega

theorem length_trimChars (text : List Char) : (trimChars text).length ≤ text.length := by
  unfold trimChars dropTrailing dropBlanks
  have first := (List.dropWhile_sublist isBlank (l := text)).length_le
  have second :=
    (List.dropWhile_sublist isBlank (l := (text.dropWhile isBlank).reverse)).length_le
  simp at second ⊢
  omega

/-- Scalars by the upper-case spelling of their names. -/
def scalar? (name : String) : Option ColumnType :=
  match name with
  | "BOOLEAN" | "BOOL" => some .boolean
  | "INT" | "INTEGER" => some .int
  | "BIGINT" => some .bigint
  | "DOUBLE" => some .double
  | "STRING" | "VARCHAR" | "VARCHAR(STRING)" => some .string
  | "BYTES" => some .bytes
  | _ => none

def parseChars (text : List Char) : Except SchemaError ColumnType :=
  let trimmed := trimChars text
  let upper := trimmed.map Char.toUpper
  match _arrayFound : between? ['A', 'R', 'R', 'A', 'Y'] upper with
  | some element => (parseChars element).map .array
  | none =>
      match _mapFound : between? ['M', 'A', 'P'] upper with
      | some entry =>
          match _cutFound : cutAtComma? 0 entry with
          | none => .error (.malformed (String.ofList trimmed))
          | some (key, value) =>
              match parseChars key with
              | .error error => .error error
              | .ok type =>
                  if type = .string then
                    (parseChars value).map .map
                  else
                    .error (.unknownType (String.ofList trimmed))
      | none =>
          match scalar? (String.ofList upper) with
          | some type => .ok type
          | none => .error (.unknownType (String.ofList trimmed))
termination_by text.length
decreasing_by
  all_goals
    have trimmedLength := length_trimChars text
    have upperLength : upper.length = (trimChars text).length := List.length_map ..
  · have := length_between? _arrayFound
    omega
  · have := length_between? _mapFound
    have := length_cutAtComma? _cutFound
    omega
  · have := length_between? _mapFound
    have := length_cutAtComma? _cutFound
    omega

/-- Reads a type name. -/
def parse (text : String) : Except SchemaError ColumnType :=
  parseChars text.toList

end StreamQuery.ColumnType
