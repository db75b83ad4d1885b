import Recommender.Text.Case

/-!
# Titles

In a title every run of letters begins with one in title case and goes on in lower case.
-/

namespace Recommender

/-- The characters of a title behind others. -/
def titledFrom : (before : List Char) → List Char → List Char
  | _, [] => []
  | before, c :: rest =>
    (if before.head?.any isCased then lowerCase before c rest else titleCase c)
    ++ titledFrom (c :: before) rest

/-- A text as a title. -/
def titled (s : String) : String :=
  String.ofList (titledFrom [] s.toList)

end Recommender
