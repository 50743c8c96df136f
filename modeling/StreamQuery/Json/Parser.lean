import StreamQuery.Json.Number
import StreamQuery.Text.Hex
/-!
# Reading data exchange text

A reader of the whole text: one value with blanks around it. Containers nest at most 127 deep. A
string holds no raw control character, and an escaped surrogate must be half of a pair. Of equal
keys in one object the last one wins.
-/

namespace StreamQuery.Json

open Text

def isSpace (c : Char) : Bool :=
  c == ' ' || c == '\n' || c == '\t' || c == '\r'

def skipSpace (text : List Char) : List Char :=
  text.dropWhile isSpace

def shortEscape? (c : Char) : Option Char :=
  match c with
  | '"' => some '"'
  | '\\' => some '\\'
  | '/' => some '/'
  | 'b' => some '\x08'
  | 'f' => some '\x0C'
  | 'n' => some '\n'
  | 'r' => some '\r'
  | 't' => some '\t'
  | _ => none

def isHighSurrogate (code : Nat) : Bool :=
  0xD800 ≤ code && code ≤ 0xDBFF

def isLowSurrogate (code : Nat) : Bool :=
  0xDC00 ≤ code && code ≤ 0xDFFF

/-- The inside of a string up to its closing quote, in reverse onto `read`. -/
def readStringOnto (read : List Char) : List Char → Option (List Char × List Char)
  | [] => none
  | '"' :: rest => some (read.reverse, rest)
  | '\\' :: 'u' :: a :: b :: c :: d :: rest =>
      match Hex.readNat? [a, b, c, d] with
      | none => none
      | some code =>
          if isLowSurrogate code then
            none
          else if isHighSurrogate code then
            match rest with
            | '\\' :: 'u' :: e :: f :: g :: h :: more =>
                match Hex.readNat? [e, f, g, h] with
                | none => none
                | some low =>
                    if isLowSurrogate low then
                      readStringOnto
                        (Char.ofNat (0x10000 + (code - 0xD800) * 0x400 + (low - 0xDC00)) :: read)
                        more
                    else
                      none
            | _ => none
          else
            readStringOnto (Char.ofNat code :: read) rest
  | '\\' :: c :: rest =>
      match shortEscape? c with
      | some plain => readStringOnto (plain :: read) rest
      | none => none
  | c :: rest =>
      if c.toNat < 0x20 then none else readStringOnto (c :: read) rest

def readString? (text : List Char) : Option (String × List Char) :=
  (readStringOnto [] text).map fun (inside, rest) => (String.ofList inside, rest)

/-- Items between separating commas up to a closing mark, in reverse onto `read`. -/
def readSequence? {α : Type} (close : Char) (readOne : List Char → Option (α × List Char)) :
    Nat → List α → List Char → Option (List α × List Char)
  | 0, _, _ => none
  | fuel + 1, read, text => do
      let (item, rest) ← readOne text
      match skipSpace rest with
      | ',' :: more => readSequence? close readOne fuel (item :: read) more
      | c :: more => if c = close then some ((item :: read).reverse, more) else none
      | [] => none

/-- A bracketed sequence after its opening mark; it may be empty. -/
def readBracketed? {α : Type} (close : Char) (readOne : List Char → Option (α × List Char))
    (text : List Char) : Option (List α × List Char) :=
  match skipSpace text with
  | [] => none
  | c :: rest =>
      if c = close then some ([], rest)
      else readSequence? close readOne (c :: rest).length [] (c :: rest)

/-- A key, a colon and a value. -/
def readMember? (readValue : List Char → Option (Json × List Char)) (text : List Char) :
    Option ((String × Json) × List Char) := do
  match skipSpace text with
  | '"' :: rest =>
      let (key, rest) ← readString? rest
      match skipSpace rest with
      | ':' :: rest =>
          let (value, rest) ← readValue rest
          pure ((key, value), rest)
      | _ => none
  | _ => none

def readWord? (word : List Char) (value : Json) (text : List Char) : Option (Json × List Char) :=
  if word.isPrefixOf text then some (value, text.drop word.length) else none

/-- A value that is no container. -/
def readScalar? (text : List Char) : Option (Json × List Char) :=
  match text with
  | [] => none
  | c :: rest =>
      if c = '"' then
        (readString? rest).map fun (inside, left) => (.string inside, left)
      else if c = 'n' then readWord? ['n', 'u', 'l', 'l'] .null text
      else if c = 't' then readWord? ['t', 'r', 'u', 'e'] (.bool true) text
      else if c = 'f' then readWord? ['f', 'a', 'l', 's', 'e'] (.bool false) text
      else if c = '-' || c.isDigit then do
        let (numeral, left) ← scanNumeral? text
        let value ← numeral.value?
        pure (value, left)
      else
        none

/-- A value in which containers nest at most `depth` deep, blanks in front allowed. -/
def readValue? : Nat → List Char → Option (Json × List Char)
  | depth, text =>
      match depth, skipSpace text with
      | depth + 1, '[' :: rest =>
          (readBracketed? ']' (readValue? depth) rest).map fun (items, left) =>
            (.array items, left)
      | depth + 1, '\x7b' :: rest =>
          (readBracketed? '\x7d' (readMember? (readValue? depth)) rest).map fun (members, left) =>
            (ofMembers members, left)
      | _, start => readScalar? start

def maximalDepth : Nat := 127

/-- One value and nothing else but blanks. -/
def parseChars? (text : List Char) : Option Json :=
  match readValue? maximalDepth text with
  | some (value, rest) => if (skipSpace rest).isEmpty then some value else none
  | none => none

def parse? (text : String) : Option Json :=
  parseChars? text.toList

/-- Bytes must be valid UTF-8 throughout. -/
def parseBytes? (bytes : ByteArray) : Option Json :=
  match String.fromUTF8? bytes with
  | some text => parse? text
  | none => none

end StreamQuery.Json
