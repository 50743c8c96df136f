/-!
# Quoted strings

A string literal stands between single quotes, and a quote inside it is written twice.
-/

namespace StreamQuery.Text

/-- The inside of a literal: each quote twice, all else once. -/
def doubleQuotes : List Char → List Char
  | [] => []
  | c :: rest => if c = '\'' then '\'' :: '\'' :: doubleQuotes rest else c :: doubleQuotes rest

def quote (text : String) : String :=
  "'" ++ String.ofList (doubleQuotes text.toList) ++ "'"

end StreamQuery.Text
