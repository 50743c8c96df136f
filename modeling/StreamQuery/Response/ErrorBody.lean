import StreamQuery.Json.Parser
import StreamQuery.Text.Blank
import StreamQuery.Text.Utf8
/-!
# Bodies of refused requests

A refusal may explain itself by an object with a text under `message`, or by an array of that one
text. Other members are passed over without being read: only their punctuation counts, at any depth.
A body of another form is its own explanation.

The reader works on the bytes, each taken for the character of its number, because the bytes of a
member that is passed over need not be valid UTF-8.
-/

namespace StreamQuery.Response

open Text

/-- The raw inside of a string up to its closing quote, in reverse onto `read`. -/
def rawStringOnto (read : List Char) : List Char → Option (List Char × List Char)
  | [] => none
  | '"' :: rest => some (read.reverse, rest)
  | '\\' :: 'u' :: a :: b :: c :: d :: rest =>
      if (Hex.readNat? [a, b, c, d]).isSome then
        rawStringOnto (d :: c :: b :: a :: 'u' :: '\\' :: read) rest
      else
        none
  | '\\' :: c :: rest =>
      if (Json.shortEscape? c).isSome then rawStringOnto (c :: '\\' :: read) rest else none
  | c :: rest => if c.toNat < 0x20 then none else rawStringOnto (c :: read) rest

/-- Passes over a string after its opening quote. -/
def skipString? (text : List Char) : Option (Unit × List Char) :=
  (rawStringOnto [] text).map fun (_, rest) => ((), rest)

def skipMember? (skipOne : List Char → Option (Unit × List Char)) (text : List Char) :
    Option (Unit × List Char) := do
  match Json.skipSpace text with
  | '"' :: rest =>
      let (_, rest) ← skipString? rest
      match Json.skipSpace rest with
      | ':' :: rest => skipOne rest
      | _ => none
  | _ => none

/-- Passes over one value; the fuel bounds its depth. -/
def skipValue? : Nat → List Char → Option (Unit × List Char)
  | 0, _ => none
  | fuel + 1, text =>
      match Json.skipSpace text with
      | '[' :: rest =>
          (Json.readBracketed? ']' (skipValue? fuel) rest).map fun (_, left) => ((), left)
      | '\x7b' :: rest =>
          (Json.readBracketed? '\x7d' (skipMember? (skipValue? fuel)) rest).map fun (_, left) =>
            ((), left)
      | '"' :: rest => skipString? rest
      | start =>
          match Json.scanNumeral? start with
          | some (_, left) => some ((), left)
          | none => (Json.readScalar? start).map fun (_, left) => ((), left)

/-- A string after its opening quote, its bytes read as UTF-8. -/
def readRawString? (text : List Char) : Option (String × List Char) := do
  let (raw, rest) ← rawStringOnto [] text
  let content ← String.fromUTF8? (raw.map fun c => UInt8.ofNat c.toNat).toByteArray
  let (inside, _) ← Json.readString? (content.toList ++ ['"'])
  pure (inside, rest)

/-- A member of the object: the text under `message`, or nothing for any other. -/
def readErrorMember? (text : List Char) : Option (Option String × List Char) := do
  match Json.skipSpace text with
  | '"' :: rest =>
      let (key, rest) ← readRawString? rest
      match Json.skipSpace rest with
      | ':' :: rest =>
          if key = "message" then
            match Json.skipSpace rest with
            | '"' :: rest => (readRawString? rest).map fun (found, left) => (some found, left)
            | _ => none
          else
            (skipValue? (rest.length + 1) rest).map fun (_, left) => (none, left)
      | _ => none
  | _ => none

def onlyElement? {α : Type} : List α → Option α
  | [element] => some element
  | _ => none

/-- The explanation of a well-formed refusal. -/
def explanation? (text : List Char) : Option String := do
  let (found, rest) ←
    match Json.skipSpace text with
    | '\x7b' :: rest =>
        (Json.readBracketed? '\x7d' readErrorMember? rest).map fun (members, left) =>
          (onlyElement? (members.filterMap id), left)
    | '[' :: rest =>
        match Json.skipSpace rest with
        | '"' :: rest => do
            let (found, rest) ← readRawString? rest
            match Json.skipSpace rest with
            | ']' :: rest => some (some found, rest)
            | _ => none
        | _ => none
    | _ => none
  if (Json.skipSpace rest).isEmpty then found else none

/-- What a refused request's body says. -/
def errorText (body : ByteArray) : String :=
  match explanation? (body.toList.map fun byte => Char.ofNat byte.toNat) with
  | some message => message
  | none => trim (Utf8.decodeLossy body)

end StreamQuery.Response
