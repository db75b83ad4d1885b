/-!
# Letters of ASCII

Names of settings and of headers are compared in lower case, in which only ASCII letters change.
-/

namespace Recommender

/-- A text with its ASCII letters in lower case. -/
def asciiLower (s : String) : String :=
  s.map Char.toLower

/-- A text with its ASCII letters in upper case. -/
def asciiUpper (s : String) : String :=
  s.map Char.toUpper

end Recommender
