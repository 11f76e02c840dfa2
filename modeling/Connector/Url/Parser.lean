import Connector.Url.Basic

/-!
# Reading addresses

An address is read from left to right: the scheme, the authority after two slashes, the path up to
a question mark or a hash sign, the query, the fragment.  Tabs and line ends are left out, and
blanks and controls at both ends.
-/

namespace Connector.Url

/-- A text without blanks and controls at its ends, and without tabs and line ends. -/
def cleaned (text : String) : List Char :=
  let isEdge (c : Char) : Bool := decide (c.toNat ≤ 32)
  let cs := ((text.toList.dropWhile isEdge).reverse.dropWhile isEdge).reverse
  cs.filter fun c => !isSkipped c

/-- Characters of schemes. -/
def isSchemeChar (c : Char) : Bool := c.isAlphanum || c == '+' || c == '-' || c == '.'

/-- The scheme in front of a colon, in lower case, and the rest. -/
def scheme? (cs : List Char) : Option (String × List Char) :=
  let name := cs.takeWhile isSchemeChar
  match name, cs.drop name.length with
  | c :: _, ':' :: rest =>
      if c.isAlpha then some (String.ofList (name.map Char.toLower), rest) else none
  | _, _ => none

/-- Whether a character is a slash for a scheme. -/
def isSlash (special : Bool) (c : Char) : Bool := c == '/' || (special && c == '\\')

/-- Whether a character ends an authority. -/
def endsAuthority (special : Bool) (c : Char) : Bool := isSlash special c || c == '?' || c == '#'

/-- The text before the last at sign, if there is one, and the text behind it. -/
def splitUserInfo (authority : List Char) : Option (List Char) × List Char :=
  match authority.reverse.span (· != '@') with
  | (host, '@' :: user) => (some user.reverse, host.reverse)
  | _ => (none, authority)

/-- The text up to a colon outside of brackets, and the rest. -/
def splitPort : Bool → List Char → List Char × List Char
  | _, [] => ([], [])
  | inside, c :: rest =>
      if c == ':' && !inside then ([], c :: rest)
      else
        let r := splitPort (if c == '[' then true else if c == ']' then false else inside) rest
        (c :: r.1, r.2)

/-- The port behind a colon. -/
def readPort (scheme : String) : List Char → Except Fault (Option Nat)
  | ':' :: ds =>
      if !ds.all Char.isDigit then .error .invalidPort
      else if ds.isEmpty then .ok none
      else
        let n := ds.foldl (fun n d => n * 10 + (d.toNat - 48)) 0
        if n > 65535 then .error .invalidPort
        else .ok (if some n == defaultPort? scheme then none else some n)
  | _ => .ok none

/-- Name and password before the host. -/
def userInfo (user : List Char) : String × Option String :=
  let name := user.takeWhile (· != ':')
  let written (cs : List Char) : String := String.ofList (encode .userInfo cs)
  match user.drop name.length with
  | _ :: p :: ps => (written name, some (written (p :: ps)))
  | _ => (written name, none)

/-- What an authority says. -/
structure Authority where
  username : String
  password : Option String
  host : Option Host
  port : Option Nat

/-- The authority of a scheme. -/
def authority (scheme : String) (cs : List Char) : Except Fault Authority := do
  let (user, place) := splitUserInfo cs
  let (hostText, portText) := splitPort false place
  let special := isSpecial scheme
  let (username, password) := userInfo (user.getD [])
  let hasUser := username != "" || password.isSome
  if hostText.isEmpty then
    if special || !portText.isEmpty || hasUser || (user.isSome && place.isEmpty) then
      throw .emptyHost
    else return ⟨"", none, some (.name ""), none⟩
  else
    let host ← if special then Host.parse hostText else Host.parseOpaque hostText
    return ⟨username, password, some host, ← readPort scheme portText⟩

/-- Adds the segments of a written path to a path. -/
def addSegments (path : List String) : List (List Char) → List String
  | [] => path
  | [last] => addSegment path true last
  | s :: rest => addSegments (addSegment path false s) rest

/-- The segments between slashes. -/
def splitPath (special : Bool) (cs : List Char) : List (List Char) :=
  cs.foldr (fun c acc => if isSlash special c then [] :: acc
    else match acc with
      | [] => [[c]]
      | s :: ss => (c :: s) :: ss) [[]]

/-- A path from behind its first slash. -/
def pathBehindSlash (special : Bool) (cs : List Char) : List String :=
  addSegments [] ((splitPath special cs).map (encode .path))

/-- The path of an address that has an authority. -/
def pathAfterAuthority (special : Bool) (cs : List Char) : List String :=
  match cs with
  | [] => if special then [""] else []
  | c :: rest => pathBehindSlash special (if isSlash special c then rest else c :: rest)

/-- The path, query and fragment of a text. -/
def splitTail (cs : List Char) : List Char × Option (List Char) × Option (List Char) :=
  let (main, fragment) := match cs.span (· != '#') with
    | (main, _ :: fragment) => (main, some fragment)
    | (main, []) => (main, none)
  match main.span (· != '?') with
  | (path, _ :: query) => (path, some query, fragment)
  | (path, []) => (path, none, fragment)

/-- The authority and the path of a file on this machine or another. -/
def filePath (cs : List Char) : Except Fault (Option Host × List String) := do
  let trimmed (path : List String) : List String :=
    match path.dropWhile (· == "") with
    | [] => [""]
    | p => p
  match cs with
  | a :: b :: rest =>
      if isSlash true a && isSlash true b then
        let hostText := rest.takeWhile fun c => !isSlash true c
        let path := trimmed (pathAfterAuthority true (rest.drop hostText.length))
        if hostText.isEmpty then return (none, path)
        else
          let host ← Host.parse hostText
          return (if host == .name "localhost" then none else some host, path)
      else return (none, trimmed (pathAfterAuthority true cs))
  | _ => return (none, trimmed (pathAfterAuthority true cs))

/-- The address that a text holds. -/
def parse (text : String) : Except Fault Url := do
  let some (scheme, rest) := scheme? (cleaned text) | throw .relative
  let special := isSpecial scheme
  let (main, query, fragment) := splitTail rest
  let written (part : Part) (cs : List Char) : String := String.ofList (encode part cs)
  let query := query.map (written (if special then .specialQuery else .query))
  let fragment := fragment.map (written .fragment)
  if scheme == "file" then
    let (host, path) ← filePath main
    return ⟨scheme, "", none, host, none, .segments path, query, fragment⟩
  else if special || ['/', '/'].isPrefixOf main then
    let body := if special then main.dropWhile (isSlash true) else main.drop 2
    let place := body.takeWhile fun c => !endsAuthority special c
    let a ← authority scheme place
    let path := pathAfterAuthority special (body.drop place.length)
    return ⟨scheme, a.username, a.password, a.host, a.port, .segments path, query, fragment⟩
  else
    let path := match main with
      | '/' :: rest => Path.segments (pathBehindSlash false rest)
      | cs => .opaquely (written .opaquePath cs)
    return ⟨scheme, "", none, none, none, path, query, fragment⟩

end Connector.Url
