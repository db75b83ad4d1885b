import Recommender.Http.Reference
import Recommender.Text.Utf8

/-!
# Paths

The path of a request is what its reference spells, with the percent-encoded octets read as UTF-8.
-/

namespace Recommender.Http

/-- The octets of characters with percent-encoded octets among them. -/
def octets : List Char → List UInt8
  | '%' :: a :: b :: rest =>
    match hexValue? a, hexValue? b with
    | some high, some low => UInt8.ofNat (16 * high + low) :: octets rest
    | _, _ => 0x25 :: octets (a :: b :: rest)
  | c :: rest => String.utf8EncodeChar c ++ octets rest
  | [] => []

/-- The path that a reference spells. -/
def Reference.spelledPath (r : Reference) : String :=
  if r.path.isEmpty then "/" else Utf8.decode (octets r.path)

/-- The characters that a path has where a reference spells one; those that would end the path or
divide it differently are percent-encoded. -/
def spelled (c : Char) : List Char :=
  if c = '?' then "%3F".toList
  else if c = '#' then "%23".toList
  else if c = '\\' then "%5C".toList
  else [c]

/-- A path as metrics list it, where line breaks and tabs are left out. -/
def listedPath (path : String) : String :=
  String.ofList ((path.toList.flatMap spelled).filter fun c => c ≠ '\t' && c ≠ '\n' && c ≠ '\r')

end Recommender.Http
