import Recommender.Metric.Sample

/-!
# The exposition format

A sample is written on one line: its name, its labels in braces in the order of their names, and its
value.  In the value of a label a backslash, a quote and a line break are written with a backslash.
-/

namespace Recommender.Sample

/-- The written form of a character in the value of a label. -/
def escapeChar (c : Char) : List Char :=
  if c = '\\' then ['\\', '\\']
  else if c = '"' then ['\\', '"']
  else if c = '\n' then ['\\', 'n']
  else [c]

/-- The written form of the value of a label. -/
def escape (s : String) : String :=
  String.ofList (s.toList.flatMap escapeChar)

/-- The written form of a label. -/
def labelText (l : String × Json) : String :=
  l.1 ++ "=\"" ++ escape l.2.text ++ "\""

/-- The written form of labels. -/
def labelsText (labels : List (String × Json)) : String :=
  if labels.isEmpty then ""
  else
    let sorted := labels.mergeSort fun a b => a.1 ≤ b.1
    "\x7b" ++ ",".intercalate (sorted.map labelText) ++ "\x7d"

/-- The line of a sample. -/
def line (s : Sample) : String :=
  s.name ++ labelsText s.labels ++ " " ++ s.value

end Recommender.Sample
