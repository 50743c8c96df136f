/-!
# Letters without case

Names and keywords of the dialect compare without regard to the case of ASCII letters; other
characters compare as they are.
-/

namespace StreamQuery.Text

/-- Upper case on ASCII letters, nothing else changes. -/
def upperCase (text : String) : String :=
  String.ofList (text.toList.map Char.toUpper)

/-- Lower case on ASCII letters, nothing else changes. -/
def lowerCase (text : String) : String :=
  String.ofList (text.toList.map Char.toLower)

/-- Equality up to the case of ASCII letters. -/
def sameWord (left right : String) : Bool :=
  upperCase left == upperCase right

/-- Joins texts with a separator between neighbours. -/
def joinWith (separator : String) : List String → String
  | [] => ""
  | [text] => text
  | text :: next :: rest => text ++ separator ++ joinWith separator (next :: rest)

end StreamQuery.Text
