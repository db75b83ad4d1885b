import Recommender.Failure
import Recommender.Http.Address
import Recommender.Http.Name
import Recommender.Number.Numeral
import Recommender.Text.Case
import Recommender.Text.Half

/-!
# References

A reference is a path, possibly behind a scheme and an authority and in front of a query and a
fragment.  An authority names a host, possibly behind a user and in front of a port.  What is not
allowed to stand in a part as it is is percent-encoded there.
-/

namespace Recommender.Http

/-! ## Percent-encoding -/

/-- The percent-encoded form of an octet. -/
def percentEncoded (octet : UInt8) : List Char :=
  let digit (n : Nat) := if n < 10 then Char.ofNat (48 + n) else Char.ofNat (55 + n)
  ['%', digit (octet.toNat / 16), digit (octet.toNat % 16)]

/-- A part of a reference, in which everything is percent-encoded that is not ASCII or is not
allowed; half of a surrogate pair cannot be encoded. -/
def encodedPart (isAllowed : Char → Bool) (cs : List Char) : Except Failure (List Char) :=
  let points := pointsOf cs
  if points.any isHalf then .error .unencodable
  else .ok (points.flatMap fun point =>
    let c := Char.ofNat point
    if 0x20 ≤ point && point < 0x7F && isAllowed c then [c]
    else (String.utf8EncodeChar c).flatMap percentEncoded)

/-- Whether a character is allowed in a path. -/
def isPathChar (c : Char) : Bool :=
  " \"#<>?\x60\x7b\x7d".toList.all (· ≠ c)

/-- Whether a character is allowed in a query. -/
def isQueryChar (c : Char) : Bool :=
  " \"#<>".toList.all (· ≠ c)

/-- Whether a character is allowed in a host. -/
def isHostChar (c : Char) : Bool :=
  " <>^[]@:/?#".toList.all (· ≠ c)

/-! ## Authorities -/

/-- The characters in front of the last mark, if there is one, and those behind it. -/
def splitAtLast (mark : Char) (cs : List Char) : List Char × List Char :=
  if cs.contains mark then
    (((cs.reverse.dropWhile (· ≠ mark)).drop 1).reverse,
      (cs.reverse.takeWhile (· ≠ mark)).reverse)
  else ([], cs)

/-- The characters of a host, and those behind it.  A host in brackets may hold anything. -/
def spanHost (cs : List Char) : List Char × List Char :=
  match cs with
  | '[' :: rest =>
    if rest.contains ']' then
      ((cs.reverse.dropWhile (· ≠ ']')).reverse, (cs.reverse.takeWhile (· ≠ ']')).reverse)
    else (cs.takeWhile (· ≠ ':'), cs.dropWhile (· ≠ ':'))
  | _ => (cs.takeWhile (· ≠ ':'), cs.dropWhile (· ≠ ':'))

/-- The name of a host: an address, in brackets if it is a long one, or a name in lower case. -/
def readHost (cs : List Char) : Except Failure String :=
  if cs.isEmpty then .ok ""
  else if looksLikeAddress (pointsOf cs) then
    if isShortAddress cs then .ok (String.ofList cs) else .error .noTarget
  else if cs.head? = some '[' && cs.getLast? = some ']' then
    let inner := cs.tail.dropLast
    if isLongAddress inner then .ok (String.ofList inner) else .error .noTarget
  else if cs.all fun c => c.toNat < 0x80 then
    (encodedPart isHostChar (cs.map Char.toLower)).map String.ofList
  else
    match asciiName (codePoints (lowered (String.ofList cs))) with
    | .ok name => .ok name
    | .error _ => .error .noTarget

/-- The port that a scheme has if none is named. -/
def usualPort? (scheme : String) : Option Int :=
  Assoc.find? scheme [("ftp", 21), ("http", 80), ("https", 443), ("ws", 80), ("wss", 443)]

/-- The port that characters name, unless it is the usual one. -/
def readPort (scheme : String) (cs : List Char) : Except Failure (Option Int) :=
  if cs.isEmpty then .ok none
  else
    match Numeral.readLoose (String.ofList cs) with
    | .ok port => .ok (if usualPort? scheme = some port then none else some port)
    | .error _ => .error .noTarget

/-- Where requests are sent to. -/
structure Origin where
  scheme : String
  host : String
  port : Option Int := none
  deriving DecidableEq, Repr, Inhabited

/-- Check that an origin can be reached. -/
def Origin.check (o : Origin) : Except Failure Unit :=
  match checkName o.host with
  | .ok _ => .ok ()
  | .error e => .error (.misnamed e)

/-- The host of an origin with its port, as a reference spells them. -/
def Origin.authority (o : Origin) : String :=
  (if o.host.contains ':' then "[" ++ o.host ++ "]" else o.host)
  ++ o.port.elim "" fun port => ":" ++ toString port

/-! ## Dot segments -/

/-- Parts without dot segments: a single dot stands for nothing, and two dots take back the part in
front of them, but not the slash that a path begins with.  `seen` holds earlier parts in reverse. -/
def dropDots : (seen : List (List Char)) → List (List Char) → List (List Char)
  | seen, [] => seen.reverse
  | seen, part :: rest =>
    if part = ['.'] then dropDots seen rest
    else if part = ['.', '.'] then dropDots (if seen = [[]] then seen else seen.tail) rest
    else dropDots (part :: seen) rest

/-- A path without dot segments. -/
def withoutDots (path : List Char) : List Char :=
  ['/'].intercalate (dropDots [] (partsAt '/' path))

/-! ## References -/

/-- A reference: its origin, of which parts may be empty, its path and its query. -/
structure Reference where
  origin : Origin
  path : List Char
  query : Option (List Char) := none
  deriving DecidableEq, Repr, Inhabited

namespace Reference

/-- The greatest number of characters of a reference. -/
def maxLength : Nat := 65536

/-- Whether a character can stand in a scheme. -/
def isSchemeChar (c : Char) : Bool :=
  c.isAlphanum || c = '+' || c = '.' || c = '-'

/-- The scheme in front of a colon, which begins with a letter or is empty, and what is behind. -/
def spanScheme (cs : List Char) : List Char × List Char :=
  let scheme := cs.takeWhile isSchemeChar
  match cs.dropWhile isSchemeChar with
  | ':' :: rest => if scheme.head?.all Char.isAlpha then (scheme, rest) else ([], cs)
  | _ => ([], cs)

/-- The authority behind two slashes, and what is behind it. -/
def spanAuthority : List Char → List Char × List Char
  | '/' :: '/' :: rest =>
    let isInside (c : Char) := c ≠ '/' && c ≠ '?' && c ≠ '#'
    (rest.takeWhile isInside, rest.dropWhile isInside)
  | cs => ([], cs)

/-- The parts of a path, a query and a fragment. -/
def spanPath (cs : List Char) : List Char × Option (List Char) × List Char :=
  let isInside (c : Char) := c ≠ '?' && c ≠ '#'
  let path := cs.takeWhile isInside
  match cs.dropWhile isInside with
  | '?' :: rest => (path, some (rest.takeWhile (· ≠ '#')), rest.dropWhile (· ≠ '#'))
  | rest => (path, none, rest)

/-- Whether a path can stand behind an authority, behind a scheme alone, or alone. -/
def isPlaced (hasScheme hasAuthority : Bool) (path : List Char) : Bool :=
  if hasAuthority then path.isEmpty || path.head? = some '/'
  else hasScheme || (path.head? ≠ some ':' && !"//".toList.isPrefixOf path)

/-- Read a reference. -/
def read (s : String) : Except Failure Reference := do
  let points := codePoints s
  if maxLength < points.length || points.any fun p => p < 0x20 || p = 0x7F then
    throw .noTarget
  let (schemeChars, rest) := spanScheme s.toList
  let (authority, rest) := spanAuthority rest
  let (path, query, fragment) := spanPath rest
  let (user, rest) := splitAtLast '@' authority
  let (hostChars, portChars) := spanHost rest
  if (pointsOf user).any isHalf then throw .unencodable
  let host ← readHost hostChars
  let portChars := if portChars.head? = some ':' then portChars.tail else portChars
  let port ← readPort (String.ofList schemeChars) portChars
  let scheme := String.ofList (schemeChars.map Char.toLower)
  let hasAuthority := !user.isEmpty || host ≠ "" || port.isSome
  if !isPlaced (scheme ≠ "") hasAuthority path then throw .noTarget
  let path := if scheme ≠ "" || hasAuthority then withoutDots path else path
  let path ← encodedPart isPathChar path
  let query ← query.mapM (encodedPart isQueryChar)
  if (pointsOf fragment).any isHalf then throw .unencodable
  return ⟨⟨scheme, host, port⟩, path, query⟩

/-- The reference of a request that is made from an origin.  A reference with a scheme and a host
stands by itself; of any other one the path and the query are kept, with one slash in front of the
path. -/
def resolve (base : Origin) (r : Reference) : Except Failure Reference :=
  if r.origin.scheme ≠ "" && r.origin.host ≠ "" then .ok r
  else
    let path := '/' :: r.path.dropWhile (· = '/')
    if maxLength < path.length || maxLength < (r.query.getD []).length then .error .noTarget
    else .ok { r with origin := base, path := withoutDots path }

end Reference

end Recommender.Http
