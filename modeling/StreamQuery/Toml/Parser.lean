import StreamQuery.Decimal.Reading
import StreamQuery.Text.Hex
import StreamQuery.Text.Numeral
import StreamQuery.Toml.Basic
/-!
# Reading settings documents

A document is read line by line: blank lines, headings and assignments, each with an optional
comment. Values nest, and the parts of a key follow each other, at most seventy-nine deep.
-/

namespace StreamQuery.Toml

open Decimal Text

def isSpace (c : Char) : Bool :=
  c == ' ' || c == '\t'

def skipSpace (text : List Char) : List Char :=
  text.dropWhile isSpace

/-- Characters that may stand in a comment or between single quotes. -/
def isPrintable (c : Char) : Bool :=
  c == '\t' || (0x20 ≤ c.toNat && c.toNat ≠ 0x7F)

/-- The rest after the end of a line, or nothing elsewhere. -/
def afterNewline? : List Char → Option (List Char)
  | '\n' :: rest => some rest
  | '\r' :: '\n' :: rest => some rest
  | _ => none

def skipComment : List Char → List Char
  | '#' :: rest => rest.dropWhile isPrintable
  | text => text

/-- Skips blanks, ends of lines and comments. -/
def skipLines : Nat → List Char → List Char
  | 0, text => text
  | fuel + 1, text =>
      let rest := skipComment (skipSpace text)
      match afterNewline? rest with
      | some more => skipLines fuel more
      | none => rest

/-- An escape after its backslash. -/
def readEscape? : List Char → Option (Char × List Char)
  | 'b' :: rest => some ('\x08', rest)
  | 't' :: rest => some ('\t', rest)
  | 'n' :: rest => some ('\n', rest)
  | 'f' :: rest => some ('\x0C', rest)
  | 'r' :: rest => some ('\r', rest)
  | '"' :: rest => some ('"', rest)
  | '\\' :: rest => some ('\\', rest)
  | 'u' :: rest => scalar? 4 rest
  | 'U' :: rest => scalar? 8 rest
  | _ => none
where
  /-- A character by the hexadecimal digits of its number. -/
  scalar? (count : Nat) (rest : List Char) : Option (Char × List Char) := do
    if rest.length < count then none
    else
      let code ← Hex.readNat? (rest.take count)
      if code.isValidChar then some (Char.ofNat code, rest.drop count) else none

/-- Skips blanks and ends of lines. -/
def skipBlankLines : Nat → List Char → List Char
  | 0, text => text
  | fuel + 1, text =>
      let rest := skipSpace text
      match afterNewline? rest with
      | some more => skipBlankLines fuel more
      | none => rest

/-- The rest after a backslash at the end of a line: all blanks and ends of lines are skipped. -/
def afterContinuation? (text : List Char) : Option (List Char) :=
  (afterNewline? (skipSpace text)).map fun rest => skipBlankLines (rest.length + 1) rest

/-- The inside of a string between double quotes, in reverse onto `read`. -/
def readBasic? : Nat → List Char → List Char → Option (List Char × List Char)
  | 0, _, _ => none
  | fuel + 1, read, text =>
      match text with
      | [] => none
      | '"' :: rest => some (read.reverse, rest)
      | '\\' :: rest => do
          let (c, rest) ← readEscape? rest
          readBasic? fuel (c :: read) rest
      | c :: rest => if isPrintable c then readBasic? fuel (c :: read) rest else none

/-- The inside of a string between single quotes. -/
def readLiteral? (text : List Char) : Option (List Char × List Char) :=
  let inside := text.takeWhile fun c => isPrintable c && c != '\''
  match text.drop inside.length with
  | '\'' :: rest => some (inside, rest)
  | _ => none

/-- The inside of a text of several lines up to three quotes, in reverse onto `read`. At most two
more quotes at the end belong to the text. -/
def readLong? (quote : Char) (escapes : Bool) :
    Nat → List Char → List Char → Option (List Char × List Char)
  | 0, _, _ => none
  | fuel + 1, read, text =>
      match text with
      | [] => none
      | c :: rest =>
          if c = quote ∧ rest.take 2 = [quote, quote] then
            let more := (rest.drop 2).takeWhile (· = quote)
            let kept := more.take 2
            some ((kept ++ read).reverse, (rest.drop 2).drop kept.length)
          else if c = '\\' ∧ escapes then
            match afterContinuation? rest with
            | some rest => readLong? quote escapes fuel read rest
            | none => do
                let (plain, rest) ← readEscape? rest
                readLong? quote escapes fuel (plain :: read) rest
          else
            match afterNewline? (c :: rest) with
            | some rest => readLong? quote escapes fuel ('\n' :: read) rest
            | none =>
                if isPrintable c then readLong? quote escapes fuel (c :: read) rest else none

/-- A long text after its opening quotes; an end of line right there does not belong to it. -/
def readLongText? (quote : Char) (escapes : Bool) (text : List Char) :
    Option (List Char × List Char) :=
  let text := (afterNewline? text).getD text
  readLong? quote escapes (text.length + 1) [] text

/-- A string of any kind. -/
def readText? : List Char → Option (String × List Char)
  | '"' :: '"' :: '"' :: rest => asText (readLongText? '"' true rest)
  | '"' :: rest => asText (readBasic? (rest.length + 1) [] rest)
  | '\'' :: '\'' :: '\'' :: rest => asText (readLongText? '\'' false rest)
  | '\'' :: rest => asText (readLiteral? rest)
  | _ => none
where
  asText (found : Option (List Char × List Char)) : Option (String × List Char) :=
    found.map fun (inside, rest) => (String.ofList inside, rest)

def isBareKeyCharacter (c : Char) : Bool :=
  c.isAlphanum || c == '_' || c == '-'

/-- One part of a key: a bare word or a string on one line. -/
def readKeyPart? : List Char → Option (String × List Char)
  | '"' :: rest => (readBasic? (rest.length + 1) [] rest).map fun (inside, left) =>
      (String.ofList inside, left)
  | '\'' :: rest => (readLiteral? rest).map fun (inside, left) => (String.ofList inside, left)
  | text =>
      let word := text.takeWhile isBareKeyCharacter
      if word.isEmpty then none else some (String.ofList word, text.drop word.length)

/-- How deep containers may nest, and how many parts a key may have. -/
def maximalDepth : Nat := 79

/-- A dotted key of at most as many parts as the fuel, blanks around it and its dots allowed. -/
def readParts? : Nat → List Char → Option (List String × List Char)
  | 0, _ => none
  | fuel + 1, text => do
      let (part, rest) ← readKeyPart? (skipSpace text)
      match skipSpace rest with
      | '.' :: rest =>
          let (others, rest) ← readParts? fuel rest
          pure (part :: others, rest)
      | rest => pure ([part], rest)

def readKey? (text : List Char) : Option (List String × List Char) :=
  readParts? maximalDepth text

/-- Digits of a class in which single underscores stand between two digits. -/
def ungroup? (isDigit : Char → Bool) (text : List Char) : Option (List Char) :=
  let groups := splitGroups text
  if groups.all fun group => !group.isEmpty && group.all isDigit then some groups.flatten else none
where
  splitGroups : List Char → List (List Char)
    | [] => [[]]
    | '_' :: rest => [] :: splitGroups rest
    | c :: rest =>
        match splitGroups rest with
        | [] => [[c]]
        | group :: groups => (c :: group) :: groups

/-- Decimal digits without a zero in front of others. -/
def readDecimal? (text : List Char) : Option (List Char) := do
  let digits ← ungroup? Char.isDigit text
  match digits with
  | '0' :: _ :: _ => none
  | _ => some digits

def isOctalDigit (c : Char) : Bool :=
  '0' ≤ c && c ≤ '7'

def isBinaryDigit (c : Char) : Bool :=
  c == '0' || c == '1'

/-- The number written by digits of a base. -/
def readBase (base : Nat) (digits : List Char) : Nat :=
  digits.foldl (fun value c => base * value + (Hex.digitValue? c).getD 0) 0

def readSigned? (text : List Char) : Option Int :=
  match text with
  | '0' :: 'x' :: digits =>
      (ungroup? (fun c => (Hex.digitValue? c).isSome) digits).map fun digits =>
        (readBase 16 digits : Int)
  | '0' :: 'o' :: digits =>
      (ungroup? isOctalDigit digits).map fun digits => (readBase 8 digits : Int)
  | '0' :: 'b' :: digits =>
      (ungroup? isBinaryDigit digits).map fun digits => (readBase 2 digits : Int)
  | '-' :: digits => (readDecimal? digits).map fun digits => -(readDigits digits : Int)
  | '+' :: digits => (readDecimal? digits).map fun digits => (readDigits digits : Int)
  | digits => (readDecimal? digits).map fun digits => (readDigits digits : Int)

/-- The part behind the exponent's mark. -/
def isExponent (text : List Char) : Bool :=
  let digits :=
    match text with
    | '+' :: digits | '-' :: digits => digits
    | digits => digits
  (ungroup? Char.isDigit digits).isSome

/-- A number with a fraction, an exponent or both, no larger than every finite double. -/
def isReal (text : List Char) : Bool :=
  let unsigned := (splitSign text).2
  let mantissa := unsigned.takeWhile fun c => !isExponentMark c
  let exponent := unsigned.drop mantissa.length
  let whole := mantissa.takeWhile (· ≠ '.')
  let fraction := mantissa.drop whole.length
  let special := unsigned = ['i', 'n', 'f'] ∨ unsigned = ['n', 'a', 'n']
  let wellFormed :=
    (readDecimal? whole).isSome ∧ ¬(fraction.isEmpty ∧ exponent.isEmpty) ∧
      (fraction.isEmpty ∨ (ungroup? Char.isDigit (fraction.drop 1)).isSome) ∧
      (exponent.isEmpty ∨ isExponent (exponent.drop 1))
  special ∨
    (wellFormed ∧
      readDouble? (String.ofList (text.filter (· ≠ '_'))) ≠ some (Binary64.infinity false))

def isNumeralCharacter (c : Char) : Bool :=
  c.isAlphanum || c == '_' || c == '-' || c == '+' || c == '.'

/-- A truth value or a number. -/
def readPlain? (text : List Char) : Option (Toml × List Char) :=
  let word := text.takeWhile isNumeralCharacter
  let rest := text.drop word.length
  if word = ['t', 'r', 'u', 'e'] then some (.bool true, rest)
  else if word = ['f', 'a', 'l', 's', 'e'] then some (.bool false, rest)
  else
    match readSigned? word with
    | some value => if fitsSigned 64 value then some (.integer value, rest) else none
    | none => if isReal word then some (.real, rest) else none

/-- A value that is no container. -/
def readScalar? (text : List Char) : Option (Toml × List Char) :=
  match text with
  | '"' :: _ | '\'' :: _ => (readText? text).map fun (content, rest) => (.string content, rest)
  | _ =>
      match readDateTime? text with
      | some (moment, rest) => some (.dateTime moment, rest)
      | none => readPlain? text

/-- The items of an array after its opening bracket, in reverse onto `read`. -/
def readItems? (readOne : List Char → Option (Toml × List Char)) :
    Nat → List Toml → List Char → Option (List Toml × List Char)
  | 0, _, _ => none
  | fuel + 1, read, text =>
      match skipLines (text.length + 1) text with
      | ']' :: rest => some (read.reverse, rest)
      | start => do
          let (item, rest) ← readOne start
          match skipLines (rest.length + 1) rest with
          | ',' :: rest => readItems? readOne fuel (item :: read) rest
          | ']' :: rest => some ((item :: read).reverse, rest)
          | _ => none

/-- A key, an equals sign and a value. -/
def readAssignment? (readOne : List Char → Option (Toml × List Char)) (text : List Char) :
    Option ((List String × Toml) × List Char) := do
  let (keys, rest) ← readKey? text
  match rest with
  | '=' :: rest =>
      let (value, rest) ← readOne (skipSpace rest)
      pure ((keys, value), rest)
  | _ => none

/-- The assignments of a table on one line after its opening brace. -/
def readInline? (readOne : List Char → Option (Toml × List Char)) :
    Nat → Toml → List Char → Option (Toml × List Char)
  | 0, _, _ => none
  | fuel + 1, built, text => do
      let ((keys, value), rest) ← readAssignment? readOne text
      let grown ← assign? keys value built
      match skipSpace rest with
      | ',' :: rest => readInline? readOne fuel grown rest
      | '\x7d' :: rest => some (grown, rest)
      | _ => none

/-- A value in which containers nest no deeper than a bound. -/
def readValue? : Nat → List Char → Option (Toml × List Char)
  | _, [] => none
  | 0, '[' :: _ | 0, '\x7b' :: _ => none
  | depth + 1, '[' :: rest =>
      (readItems? (readValue? depth) (rest.length + 1) [] rest).map fun (items, left) =>
        (.array items, left)
  | depth + 1, '\x7b' :: rest =>
      match skipSpace rest with
      | '\x7d' :: rest => some (.table .sealed [], rest)
      | rest => readInline? (readValue? depth) (rest.length + 1) (.table .sealed []) rest
  | _, text => readScalar? text

/-- A heading after its opening brackets, up to its closing ones. -/
def readHeading? (closing : List Char) (text : List Char) : Option (List String × List Char) := do
  let (keys, rest) ← readKey? text
  if closing.isPrefixOf rest then some (keys, rest.drop closing.length) else none

/-- The rest after a line's comment and end. -/
def endLine? (text : List Char) : Option (List Char) :=
  match skipComment (skipSpace text) with
  | [] => some []
  | rest => afterNewline? rest

/-- Reads lines into a document with a heading open. -/
def readLines? : Nat → List String → Toml → List Char → Option Toml
  | 0, _, _, _ => none
  | fuel + 1, heading, document, text =>
      match skipSpace text with
      | [] => some document
      | '[' :: '[' :: rest => do
          let (opened, rest) ← readHeading? [']', ']'] rest
          let document ← openRepeated? opened document
          let rest ← endLine? rest
          readLines? fuel opened document rest
      | '[' :: rest => do
          let (opened, rest) ← readHeading? [']'] rest
          let document ← openTable? opened document
          let rest ← endLine? rest
          readLines? fuel opened document rest
      | '#' :: _ | '\n' :: _ | '\r' :: _ => do
          let rest ← endLine? text
          readLines? fuel heading document rest
      | start => do
          let ((keys, value), rest) ← readAssignment? (readValue? maximalDepth) start
          let document ← assignUnder? heading keys value document
          let rest ← endLine? rest
          readLines? fuel heading document rest

/-- Reads a document; a mark of byte order in front is skipped. -/
def parse? (text : String) : Option Toml :=
  let chars :=
    match text.toList with
    | '\uFEFF' :: rest => rest
    | chars => chars
  readLines? (chars.length + 1) [] emptyDocument chars

end StreamQuery.Toml
