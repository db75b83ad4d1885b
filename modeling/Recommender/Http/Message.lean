import Recommender.Failure
import Recommender.Http.Site
import Recommender.Json.Writer
import Recommender.Metric.Exposition
import Recommender.Text.Case

/-!
# Requests and responses
-/

namespace Recommender.Http

/-- A request.  The names of headers are told apart without regard to case. -/
structure Request where
  method : String
  reference : Reference
  headers : List (String × String) := []
  body : String := ""
  deriving DecidableEq, Repr, Inhabited

namespace Request

/-- Read headers, whose names and values are ASCII texts. -/
def readHeaders : List (String × Json) → Except Failure (List (String × String))
  | [] => .ok []
  | (name, .str value) :: rest =>
    if (name ++ value).toList.all fun c => c.toNat < 0x80 then
      (readHeaders rest).map ((name, value) :: ·)
    else .error .unencodable
  | _ => .error .mistyped

/-- Read a method, which is a text in upper case. -/
def readMethod : Json → Except Failure String
  | .str s => .ok (uppered s)
  | _ => .error .unknownName

/-- Read the reference of a request that is made from an origin. -/
def readReference (base : Origin) : Json → Except Failure Reference
  | .str s => do (← Reference.read s).resolve base
  | _ => .error .mistyped

/-- The value of the first header of a name, which is given in lower case. -/
def header? (name : String) (r : Request) : Option String :=
  (r.headers.find? fun h => asciiLower h.1 = name).map (·.2)

/-- The host that a request names: its header, or the host that it is sent to. -/
def host (r : Request) : String :=
  (r.header? "host").getD r.reference.origin.authority

/-- Put a request together.  A body and a host are sent as octets. -/
def compose (base : Origin) (method target : Json) (headers : List (String × Json))
    (body : String) : Except Failure Request := do
  if hasHalf body then throw .unencodable
  let reference ← readReference base target
  let headers ← readHeaders headers
  let method ← readMethod method
  let r : Request := { method, reference, headers, body }
  if r.host.toList.any fun c => 0x80 ≤ c.toNat then throw .unencodable
  reference.origin.check
  return r

/-- The path that a request is about. -/
def path (r : Request) : String :=
  r.reference.spelledPath

/-- The place that a request is for, if it is known. -/
def site? (r : Request) : Option String :=
  siteOf? r.host r.reference.origin

/-- Check that a request can be sent on to another path. -/
def checkMoveTo (path : String) (r : Request) : Except Failure Unit :=
  r.site?.elim (.error .misdirected) fun site => checkMove site path r.reference.query

end Request

/-- What a response carries. -/
inductive Content where
  | empty
  | json (v : Json)
  /-- The issues for which a request was refused. -/
  | issues (found : List Issue)
  | samples (listed : List Sample)
  /-- A page of the manual, which is for reading only. -/
  | page
  deriving Repr, Inhabited

/-- The text of a content. -/
def Content.text : Content → String
  | .json v => String.ofList (v.write .dense)
  | .issues found => "\n".intercalate (found.map Issue.text)
  | .samples listed => "\n".intercalate (listed.map Sample.line)
  | .empty | .page => ""

/-- Whether a content can be sent.  Issues are sent with the inputs that they are about. -/
def Content.isSendable : Content → Bool
  | .json v => v.isSendable
  | .issues found => found.all fun issue => issue.input.isSendable
  | .samples listed => listed.all fun sample => !hasHalf sample.line
  | _ => true

/-- A response. -/
structure Response where
  status : Nat
  content : Content := .empty
  deriving Repr, Inhabited

namespace Response

/-- A response that carries a value. -/
def ok (v : Json) : Response :=
  ⟨200, .json v⟩

/-- A response to a request that was refused for its form. -/
def refused (found : List Issue) : Response :=
  ⟨422, .issues found⟩

/-- A response that says in words why there is nothing else to answer. -/
def plain (status : Nat) (why : String) : Response :=
  ⟨status, .json (.obj [("detail", .str why)])⟩

/-- The response as it is sent to a request of a method: without content if only the head was asked
for. -/
def forMethod (method : String) (r : Response) : Response :=
  if method = "HEAD" then { r with content := .empty } else r

end Response

end Recommender.Http
