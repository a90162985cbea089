import CriteriaSearch.Url.Host

/-!
# URLs

A URL names a resource by a scheme, an authority, a path, a query and a fragment.  The parts are
kept the way they are written, with every character encoded that may not stand in its part, so two
URLs are the same exactly when they have the same text.
-/

namespace CriteriaSearch

/-- The path of a URL: a list of segments, or a text without inner structure. -/
inductive UrlPath where
  | segments (names : List (List Char))
  | plain (text : List Char)
  deriving DecidableEq, Inhabited

/-- A URL. -/
structure Url where
  scheme : List Char
  username : List Char := []
  password : List Char := []
  host : Option Host := none
  /-- The port, unless it is the one that the scheme implies. -/
  port : Option Nat := none
  path : UrlPath := .segments []
  query : Option (List Char) := none
  fragment : Option (List Char) := none
  deriving DecidableEq, Inhabited

namespace Url

/-- The port that a scheme implies. -/
def defaultPort? (scheme : List Char) : Option Nat :=
  match String.ofList scheme with
  | "http" | "ws" => some 80
  | "https" | "wss" => some 443
  | "ftp" => some 21
  | _ => none

/-- Whether URLs of a scheme name a host of a network or a file. -/
def isSpecial (scheme : List Char) : Bool :=
  scheme = "file".toList || (defaultPort? scheme).isSome

/-- Whether the resource is reached by the hypertext protocol. -/
def isHypertext (url : Url) : Bool :=
  url.scheme = "http".toList || url.scheme = "https".toList

/-- The name and the password in front of the host. -/
def credentials (url : Url) : List Char :=
  if url.username.isEmpty && url.password.isEmpty then []
  else
    url.username ++ (if url.password.isEmpty then [] else ':' :: url.password) ++ ['@']

/-- The authority with the two slashes in front of it. -/
def authority (url : Url) : List Char :=
  match url.host with
  | none => []
  | some host =>
    ['/', '/'] ++ url.credentials ++ host.text ++
      (match url.port with
        | none => []
        | some port => ':' :: Nat.toDigits 10 port)

/-- The text of a path. -/
def pathText (url : Url) : List Char :=
  match url.path with
  | .plain text => text
  | .segments names => names.flatMap ('/' :: ·)

/-- What stands in front of a path that would be read as an authority: a segment that stays where it
is. -/
def pathGuard (url : Url) : List Char :=
  match url.host, url.path with
  | none, .segments ([] :: _ :: _) => ['/', '.']
  | _, _ => []

/-- The text of a URL. -/
def text (url : Url) : String :=
  String.ofList <|
    url.scheme ++ [':'] ++ url.authority ++ url.pathGuard ++ url.pathText ++
      (url.query.map ('?' :: ·)).getD [] ++ (url.fragment.map ('#' :: ·)).getD []

/-- Whether a character of a host may stand in the target of a request. -/
def isTargetChar (c : Char) : Bool :=
  c.isAlphanum || "!$&'()*+,-.:;=[]_~".toList.contains c

/-- Whether a request may have the URL as its target. -/
def isTarget (url : Url) : Bool :=
  url.host.all (·.text.all isTargetChar) && url.text.utf8ByteSize < 65535

/-- The URL without the name and the password. -/
def withoutCredentials (url : Url) : Url :=
  { url with username := [], password := [] }

/-- The query with one more pair of a name and a value. -/
def addPair (url : Url) (name value : String) : Url :=
  let pair := Text.formEncode name.toList ++ '=' :: Text.formEncode value.toList
  let query := match url.query with
    | none | some [] => pair
    | some earlier => earlier ++ '&' :: pair
  { url with query := some query }

end Url

end CriteriaSearch
