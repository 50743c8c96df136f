/-!
# Blank characters

A character is blank when it has the Unicode property White_Space. Texts are trimmed of blanks at
both ends, cut into words at them, and compared with the blank text through them.
-/

namespace StreamQuery.Text

/-- The Unicode property White_Space. -/
def isBlank (c : Char) : Bool :=
  let code := c.toNat
  (0x09 ≤ code && code ≤ 0x0D) || code == 0x20 || code == 0x85 || code == 0xA0 ||
    code == 0x1680 || (0x2000 ≤ code && code ≤ 0x200A) || code == 0x2028 || code == 0x2029 ||
    code == 0x202F || code == 0x205F || code == 0x3000

def dropBlanks (text : List Char) : List Char :=
  text.dropWhile isBlank

/-- Drops trailing characters of a class. -/
def dropTrailing (class_ : Char → Bool) (text : List Char) : List Char :=
  (text.reverse.dropWhile class_).reverse

def trimChars (text : List Char) : List Char :=
  dropTrailing isBlank (dropBlanks text)

/-- The text without blanks at either end. -/
def trim (text : String) : String :=
  String.ofList (trimChars text.toList)

/-- True when a text holds nothing but blanks. -/
def isBlankText (text : String) : Bool :=
  text.toList.all isBlank

/-- Pieces between separators; a separator at an end or beside another leaves an empty piece. -/
def splitBy (separator : Char → Bool) : List Char → List (List Char)
  | [] => [[]]
  | c :: rest =>
      if separator c then
        [] :: splitBy separator rest
      else
        match splitBy separator rest with
        | [] => [[c]]
        | piece :: pieces => (c :: piece) :: pieces

/-- The maximal runs of characters that are not blank, in order. -/
def words (text : String) : List String :=
  ((splitBy isBlank text.toList).filter (fun piece => !piece.isEmpty)).map String.ofList

/-- True when `part` occurs in the text at some position. -/
def containsText (part : List Char) : List Char → Bool
  | [] => part.isEmpty
  | c :: rest => part.isPrefixOf (c :: rest) || containsText part rest

end StreamQuery.Text
