import Recommender.Json.Writer

/-!
# Samples of measured quantities

A sample is a quantity with its labels and the text of its value.  The value of a label should be a
text, and is shown as it is.
-/

namespace Recommender

/-- A measured quantity. -/
structure Sample where
  name : String
  labels : List (String × Json)
  value : String
  deriving Repr, Inhabited, BEq

namespace Sample

/-- The text of a count, written as a binary fraction. -/
def countText (n : Nat) : String :=
  (Binary64.ofInt n).text

/-- The sample of a count. -/
def ofCount (name : String) (labels : List (String × Json)) (n : Nat) : Sample :=
  ⟨name, labels, countText n⟩

/-- The labels as an object, in the order of their names. -/
def labelsJson (s : Sample) : Json :=
  .obj (s.labels.mergeSort fun a b => a.1 ≤ b.1)

/-- Whether one sample is listed before another: by name, then by the written form of the labels. -/
def listedBefore (a b : Sample) : Bool :=
  if a.name = b.name then a.labelsJson.compress ≤ b.labelsJson.compress else a.name ≤ b.name

/-- Samples in the order in which they are listed. -/
def sort (samples : List Sample) : List Sample :=
  samples.mergeSort listedBefore

end Sample

end Recommender
