import Recommender.Http.Message
import Recommender.Json.Reader
import Recommender.Payload.RuleDraft
import Recommender.Text.Blank
import Recommender.Text.Encoding

/-!
# Bodies of requests

A body is read as JSON if its content type says that it is JSON, and is foreign otherwise.  A body
whose octets cannot be read, one with a whole number of too many digits, and one that is nested too
deeply are given up on.
-/

namespace Recommender.Http

/-- What the body of a request holds. -/
inductive Body where
  | absent
  /-- Anything that is not said to be JSON. -/
  | foreign
  | malformed
  /-- JSON that is not read to its end. -/
  | givenUp
  | json (v : Json)
  deriving Repr, Inhabited

/-- Whether a content type is that of JSON, or of a format written in JSON. -/
def isJsonType (contentType : String) : Bool :=
  let name := trimBoth isSpacing (contentType.toList.takeWhile (· ≠ ';'))
  match "application/".toList.isPrefixOf? (asciiLower (String.ofList name)).toList with
  | some kind => !kind.contains '/' && (kind = "json".toList || "+json".toList.isSuffixOf kind)
  | none => false

/-- Read a text as JSON. -/
def readJson (s : String) : Body :=
  match (Encoding.charactersOf s).map (Json.readWithin Json.maxNesting) with
  | some (.ok v) => .json v
  | some (.error .malformed) => .malformed
  | some (.error .oversizedNumber) | some (.error .tooDeep) | none => .givenUp

/-- Read the body of a request. -/
def Request.readBody (r : Request) : Body :=
  if r.body = "" then .absent
  else if isJsonType ((r.header? "content-type").getD "") then readJson r.body
  else .foreign

/-- The response to a body that was given up on. -/
def Response.givenUp : Response :=
  .plain 400 "There was an error parsing the body"

/-- Read the rule that a request has in its body, or refuse the request. -/
def Request.readDraft (r : Request) : Except Response RuleDraft :=
  let whole (kind : IssueKind) : Except Response RuleDraft :=
    .error (.refused [{ kind, path := [.field "body"] }])
  match r.readBody with
  | .absent => whole .missing
  | .foreign => whole .notObject
  | .malformed => whole .malformedJson
  | .givenUp => .error .givenUp
  | .json v =>
    match (RuleDraft.ofJson .notObject v).under (.field "body") with
    | .ok draft => .ok draft
    | .error found => .error (.refused found)

/-- Read a value of the path, or refuse the request. -/
def readPathValue {α : Type} (name value : String) (read : Json → Checked α) :
    Except Response α :=
  match (((read (.str value)).under (.field name)).under (.field "path")) with
  | .ok a => .ok a
  | .error found => .error (.refused found)

end Recommender.Http
