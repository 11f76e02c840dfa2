import Connector.Json.Decode
import Connector.Json.Reader
import Connector.Http.Status
import Connector.Url.Parser

/-!
# Exchanges

A request goes to an address of the web; the fragment stays behind.  What comes back is a
response, or nothing within the time there is.  Where an address is shown it has no name and no
password.
-/

namespace Connector.Http

/-- What a request wants done. -/
inductive Method where
  | get
  | post
  deriving DecidableEq, Repr, Inhabited

/-- The word for a method. -/
def Method.word : Method → String
  | get => "GET"
  | post => "POST"

/-- A request; a body is a document. -/
structure Request where
  method : Method
  url : Url
  body : Option Json
  deriving Inhabited

/-- What came back. -/
inductive Reply where
  /-- Nothing, or too late. -/
  | silence
  | response (status : Nat) (body : String)
  deriving DecidableEq, Repr, Inhabited

/-- Why an exchange did not come to a document. -/
inductive Failure where
  /-- The text is no address. -/
  | noAddress
  /-- The address is not one of the web. -/
  | foreign (url : Url)
  | unanswered (url : Url)
  /-- The body of the response is not what it should be. -/
  | unreadable (url : Url)
  deriving DecidableEq, Repr

/-- The text of an address in a message. -/
def shown (url : Url) : String := url.withoutUserInfo.text

/-- The wording of a failure. -/
def Failure.message : Failure → String
  | noAddress => "builder error"
  | foreign url => "builder error for url (" ++ shown url ++ ")"
  | unanswered url => "error sending request for url (" ++ shown url ++ ")"
  | unreadable url => "error decoding response body for url (" ++ shown url ++ ")"

/-- Whether requests go to an address: it is one of the web. -/
def isReachable (url : Url) : Bool :=
  (url.scheme == "http" || url.scheme == "https") && url.host.isSome

/-- A request to an address, if requests go there. -/
def Request.to (method : Method) (url : Url) (body : Option Json) : Except Failure Request :=
  if isReachable url then .ok ⟨method, url, body⟩ else .error (.foreign url)

/-- The address in the first line of a request. -/
def Request.target (r : Request) : String :=
  { r.url.withoutUserInfo with fragment := none : Url }.text

/-- The status and body of a reply. -/
def Reply.response? (url : Url) : Reply → Except Failure (Nat × String)
  | silence => .error (.unanswered url)
  | response status body => .ok (status, body)

/-- The value in the body of a response. -/
def readBody {α : Type} (d : Decoder α) (url : Url) (body : String) : Except Failure α :=
  match Json.parse? body with
  | none => .error (.unreadable url)
  | some j => (d.run j).mapError fun _ => .unreadable url

end Connector.Http
