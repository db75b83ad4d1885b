import Recommender.Http.Path
import Recommender.Text.Letter

/-!
# Where a request is for

A service takes a request to be for the host that the request names in its header, if that is a
host with or without a port, and otherwise for the one that the request was sent to.
-/

namespace Recommender.Http

/-- Whether a character can stand in the name of a host. -/
def isNameChar (c : Char) : Bool :=
  c.isAlphanum || "-._~!$&'()*+,;=%".toList.contains c

/-- Whether characters name a host: in brackets stands an address of groups. -/
def isHostName (cs : List Char) : Bool :=
  match cs with
  | '[' :: rest =>
    rest.getLast? = some ']' && 1 < rest.length
    && rest.dropLast.all fun c => (hexValue? c).isSome || c = ':' || c = '.'
  | _ => !cs.isEmpty && cs.all isNameChar

/-- Whether characters are a port. -/
def isPort (cs : List Char) : Bool :=
  cs.all isAsciiDigit && cs.length < 6
  && cs.foldl (fun n c => 10 * n + (c.toNat - 48)) 0 < 0x10000

/-- Whether a text is a host with or without a port. -/
def isHostHeader (s : String) : Bool :=
  let (host, behind) := spanHost s.toList
  isHostName host
  && match behind with
    | ':' :: port => isPort port
    | rest => rest.isEmpty

/-- The port that a service has under a scheme if none is named. -/
def servicePort? (scheme : String) : Option Int :=
  Assoc.find? scheme [("http", 80), ("https", 443), ("ws", 80), ("wss", 443)]

/-- The place that a request is for, as a reference spells it: the scheme and the host, named by a
header or else by the origin.  Only under some schemes the origin names a place. -/
def siteOf? (header : String) (o : Origin) : Option String :=
  if isHostHeader header then some (o.scheme ++ "://" ++ header)
  else (servicePort? o.scheme).map fun usual =>
    let port := o.port.elim ":None" fun port => if port = usual then "" else ":" ++ toString port
    o.scheme ++ "://" ++ o.host ++ port

/-- Whether a character stands as itself in the place that a request is sent on to. -/
def isLocationChar (c : Char) : Bool :=
  c.isAlphanum || "_.-~:/%#?=@[]!$&'()*+,".toList.contains c

/-- Check that a request can be sent on to a path of a site. -/
def checkMove (site path : String) (query : Option (List Char)) : Except Failure Unit :=
  let rest := (query.filter (!·.isEmpty)).elim [] ('?' :: ·)
  let location := site.toList ++ path.toList.flatMap spelled ++ rest
  let target := do Reference.read (String.ofList (← encodedPart isLocationChar location))
  match target with
  | .ok r => r.origin.check
  | .error _ => .error .misdirected

example : isHostHeader "b:8013" = true := by decide
example : isHostHeader "a b" = false := by decide
example : isHostHeader "x:99999" = false := by decide
example : isHostHeader "[::1]:80" = true := by decide

end Recommender.Http
