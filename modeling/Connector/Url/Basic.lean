import Connector.Url.Host

/-!
# Addresses

An address has a scheme, perhaps an authority with a host, a path, and perhaps a query and a
fragment.  The path is a list of segments, or a text that no segment can be added to.
-/

namespace Connector
namespace Url

/-- A path. -/
inductive Path where
  | segments (list : List String)
  | opaquely (text : String)
  deriving DecidableEq, Repr, Inhabited

end Url

open Url in
/-- An address. -/
structure Url where
  scheme : String
  username : String
  password : Option String
  host : Option Host
  port : Option Nat
  path : Path
  query : Option String
  fragment : Option String
  deriving DecidableEq, Repr, Inhabited

namespace Url

/-- The port that need not be said. -/
def defaultPort? : String → Option Nat
  | "http" => some 80
  | "https" => some 443
  | "ws" => some 80
  | "wss" => some 443
  | "ftp" => some 21
  | _ => none

/-- Whether hosts and paths of a scheme follow the rules of the web. -/
def isSpecial (scheme : String) : Bool := scheme == "file" || (defaultPort? scheme).isSome

/-- The text of a path after its authority. -/
def Path.text : Path → String
  | segments list => String.join (list.map fun s => "/" ++ s)
  | opaquely text => text

/-- The text of name and password before the host. -/
def userInfoText (u : Url) : String :=
  let password := match u.password with
    | some p => ":" ++ p
    | none => ""
  if u.username == "" && u.password.isNone then "" else u.username ++ password ++ "@"

/-- The text of the authority, with its slashes. -/
def authorityText (u : Url) : String :=
  match u.host with
  | some h =>
      "//" ++ u.userInfoText ++ h.text
        ++ (match u.port with
          | some p => ":" ++ toString p
          | none => "")
  | none =>
      if u.scheme == "file" then "//"
      else
        match u.path with
        | .segments ("" :: _ :: _) => "/."
        | _ => ""

/-- The text of an address. -/
def text (u : Url) : String :=
  u.scheme ++ ":" ++ u.authorityText ++ u.path.text
    ++ (match u.query with
      | some q => "?" ++ q
      | none => "")
    ++ (match u.fragment with
      | some f => "#" ++ f
      | none => "")

/-- The address without name and password. -/
def withoutUserInfo (u : Url) : Url := { u with username := "", password := none }

/-- Whether a segment stands for the place it is in. -/
def isSingleDot (s : List Char) : Bool := s == ['.'] || s.map Char.toLower == "%2e".toList

/-- Whether a segment stands for the place above. -/
def isDoubleDot (s : List Char) : Bool :=
  ["..", "%2e%2e", "%2e.", ".%2e"].contains (String.ofList (s.map Char.toLower))

/-- The path with one more segment; dots move in the path. -/
def addSegment (path : List String) (isLast : Bool) (segment : List Char) : List String :=
  if isDoubleDot segment then if isLast then path.dropLast ++ [""] else path.dropLast
  else if isSingleDot segment then if isLast then path ++ [""] else path
  else path ++ [String.ofList segment]

/-- Marks that are left out of addresses wherever they stand. -/
def isSkipped (c : Char) : Bool := c == '\t' || c == '\n' || c == '\r'

/-- The path without an empty segment at its end. -/
def popEmpty (path : List String) : List String :=
  if path.length > 1 && path.getLast? == some "" then path.dropLast else path

/-- The path with a segment pushed; single and double dots are left out. -/
def pushSegment (part : Part) (path : List String) (segment : String) : List String :=
  if segment == "." || segment == ".." then path
  else
    let encoded := encode part (segment.toList.filter fun c => !isSkipped c)
    addSegment (if path == [""] then [] else path) true encoded

/-- The address with segments pushed to its path; none for a path that takes no segments. -/
def push? (u : Url) (segments : List String) : Option Url :=
  match u.path with
  | .opaquely _ => none
  | .segments path =>
      let part := if isSpecial u.scheme then Part.specialSegment else .segment
      some { u with path := .segments (segments.foldl (pushSegment part) (popEmpty path)) }

end Url
end Connector
