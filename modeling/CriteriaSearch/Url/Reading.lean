import CriteriaSearch.Text.Blank
import CriteriaSearch.Url.Basic

/-!
# Reading URLs

`Url.parse` reads a URL that stands for itself and `Url.join` one that may be relative to another.
Both accept what browsers accept: backslashes count as slashes where a scheme is for networks,
tabs and line ends do not count at all, and segments of dots walk through the path.
-/

namespace CriteriaSearch.Url

/-- The text that counts: no control characters and spaces at its ends, and no tabs and line ends
anywhere. -/
def relevant (cs : List Char) : List Char :=
  let isEdge (c : Char) : Bool := c.toNat ≤ 0x20
  ((((cs.dropWhile isEdge).reverse).dropWhile isEdge).reverse).filter
    fun c => !"\t\n\r".toList.contains c

/-- The scheme of a URL in lower case, and the rest behind the colon. -/
def splitScheme? (cs : List Char) : Option (List Char × List Char) :=
  let isPart (c : Char) : Bool := c.isAlphanum || "+-.".toList.contains c
  match cs.takeWhile isPart, cs.dropWhile isPart with
  | first :: more, ':' :: rest =>
    if first.isAlpha then some ((first :: more).map Char.toLower, rest) else none
  | _, _ => none

/-- Whether a character separates segments. -/
def isSlash (special : Bool) (c : Char) : Bool :=
  c = '/' || (special && c = '\\')

/-- What may stand for itself in a path. -/
def keepsInPath : Char → Bool :=
  Text.isPlain " \"<>`#?\x7b\x7d"

/-- What may stand for itself in a segment that is given by itself. -/
def keepsInSegment (special : Bool) : Char → Bool :=
  Text.isPlain (if special then " \"<>`#?\x7b\x7d/%\\" else " \"<>`#?\x7b\x7d/%")

/-- What may stand for itself in a query. -/
def keepsInQuery (special : Bool) : Char → Bool :=
  Text.isPlain (if special then " \"#<>'" else " \"#<>")

/-- What may stand for itself in a fragment. -/
def keepsInFragment : Char → Bool :=
  Text.isPlain " \"<>`"

/-- What may stand for itself in a name or a password. -/
def keepsInCredentials : Char → Bool :=
  Text.isPlain " \"<>`#?\x7b\x7d/:;=@[\\]^|"

/-- The dots that a segment writes, perhaps encoded, if it consists of dots. -/
def dots? : List Char → Option Nat
  | [] => some 0
  | '.' :: rest => (dots? rest).map (· + 1)
  | '%' :: '2' :: 'e' :: rest | '%' :: '2' :: 'E' :: rest => (dots? rest).map (· + 1)
  | _ => none

/-- Whether a segment names a drive: a letter and a colon, or a vertical bar in its place. -/
def isDrive : List Char → Bool
  | [letter, mark] => letter.isAlpha && (mark = ':' || mark = '|')
  | _ => false

/-- Goes back by one segment.  Segments are in reverse, and a drive is never left. -/
def goBack : List (List Char) → List (List Char)
  | [] => []
  | last :: done => if isDrive last then last :: done else done

/-- A segment that is not the last one put behind others, which are in reverse: one dot stays
where it is, two dots go back. -/
def enter (done : List (List Char)) (segment : List Char) : List (List Char) :=
  match dots? segment with
  | some 1 => done
  | some 2 => goBack done
  | _ => segment :: done

/-- The last segment put behind others; behind dots the path ends in an empty segment. -/
def enterLast (done : List (List Char)) (segment : List Char) : List (List Char) :=
  match dots? segment with
  | some 1 => [] :: done
  | some 2 => [] :: goBack done
  | _ => segment :: done

/-- Segments put behind others, with the dots among them followed. -/
def walk (done : List (List Char)) : List (List Char) → List (List Char)
  | [] => done.reverse
  | [last] => (enterLast done last).reverse
  | segment :: next :: rest => walk (enter done segment) (next :: rest)

/-- The segments of a path behind its first slash. -/
def segmentsOf (special : Bool) (cs : List Char) : List (List Char) :=
  (Text.pieces '/' (cs.map fun c => if isSlash special c then '/' else c)).map
    (Text.percentEncode keepsInPath)

/-- A path read from a text, behind segments that are there already. -/
def pathFrom (special : Bool) (before : List (List Char)) (cs : List Char) : UrlPath :=
  .segments (walk before.reverse (segmentsOf special cs))

/-- Puts the query and the fragment of a text into a URL. -/
def withTail (url : Url) (cs : List Char) : Url :=
  let special := isSpecial url.scheme
  let beforeFragment := cs.takeWhile (· ≠ '#')
  let fragment := match cs.dropWhile (· ≠ '#') with
    | '#' :: rest => some (Text.percentEncode keepsInFragment rest)
    | _ => none
  let query := match beforeFragment with
    | '?' :: rest => some (Text.percentEncode (keepsInQuery special) rest)
    | _ => none
  { url with query, fragment }

/-- Whether a character ends a path. -/
def endsPath (c : Char) : Bool :=
  c = '?' || c = '#'

/-- Reads a path, a query and a fragment into a URL whose authority is complete. -/
def withPath (url : Url) (cs : List Char) : Url :=
  let special := isSpecial url.scheme
  let path := cs.takeWhile (!endsPath ·)
  let tail := cs.dropWhile (!endsPath ·)
  let path := match path with
    | [] => if special then .segments [[]] else .segments []
    | c :: rest => pathFrom special [] (if isSlash special c then rest else c :: rest)
  withTail { url with path } tail

/-- Whether a character ends an authority. -/
def endsAuthority (special : Bool) (c : Char) : Bool :=
  isSlash special c || endsPath c

/-- The text in front of the last at sign of an authority, and everything behind it. -/
def splitCredentials (special : Bool) (cs : List Char) : Option (List Char) × List Char :=
  match (cs.takeWhile (!endsAuthority special ·)).reverse.span (· ≠ '@') with
  | (_, []) => (none, cs)
  | (_, _ :: credentials) => (some credentials.reverse, cs.drop (credentials.length + 1))

/-- A host and everything behind it.  Colons in brackets belong to the host. -/
def splitHost (special : Bool) : (bracket : Bool) → List Char → List Char × List Char
  | _, [] => ([], [])
  | bracket, c :: rest =>
    if (c = ':' && !bracket) || endsAuthority special c then ([], c :: rest)
    else
      let (host, behind) := splitHost special (c = '[' || (bracket && c ≠ ']')) rest
      (c :: host, behind)

/-- The port behind a colon if there is one, and everything behind it.  The port that the scheme
implies is left out. -/
def readPort (scheme : List Char) : List Char → Except UrlError (Option Nat × List Char)
  | ':' :: rest =>
    let digits := rest.takeWhile Char.isDigit
    let behind := rest.dropWhile Char.isDigit
    let port := (Text.numeral? 10 digits).filter (defaultPort? scheme ≠ some ·)
    if behind.head?.any (!endsAuthority true ·) || port.any (65535 < ·) then .error .badPort
    else .ok (port, behind)
  | cs => .ok (none, cs)

/-- Reads everything behind the slashes in front of an authority. -/
def withAuthority (scheme : List Char) (cs : List Char) : Except UrlError Url := do
  let special := isSpecial scheme
  let (credentials, place) := splitCredentials special cs
  let (hostText, behind) := splitHost special false place
  let encode := Text.percentEncode keepsInCredentials
  let given := credentials.getD []
  let username := encode (given.takeWhile (· ≠ ':'))
  let password := encode ((given.dropWhile (· ≠ ':')).drop 1)
  let needsHost : Bool :=
    special || !username.isEmpty || !password.isEmpty || behind.head? = some ':' ||
      (credentials = some [] && !behind.isEmpty)
  if hostText.isEmpty && needsHost then .error .emptyHost
  else
    let host ← if special then Host.ofText hostText else Host.ofUninterpreted hostText
    let (port, behind) ← readPort scheme behind
    return withPath { scheme, username, password, host := some host, port } behind

/-- A path of files.  A drive at its start is written with a colon, and the path does not start with
an empty segment unless there is nothing else in it. -/
def filePath (names : List (List Char)) : List (List Char) :=
  let names := match names with
    | [letter, mark] :: rest =>
      (if isDrive [letter, mark] then [letter, ':'] else [letter, mark]) :: rest
    | names => names
  match names.dropWhile List.isEmpty with
  | [] => [[]]
  | names => names

/-- Reads a path, a query and a fragment into a URL for files.  A path that starts with a drive is
on no host. -/
def withFilePath (host : Host) (cs : List Char) : Url :=
  let path := cs.takeWhile (!endsPath ·)
  let names := walk [] <| segmentsOf true <|
    if path.head?.any (isSlash true) then path.drop 1 else path
  let host := if names.head?.any isDrive then .name [] else host
  withTail { scheme := "file".toList, host := some host, path := .segments (filePath names) }
    (cs.dropWhile (!endsPath ·))

/-- Reads everything behind the colon of a URL for files. -/
def ofFile (cs : List Char) : Except UrlError Url :=
  match cs with
  | a :: b :: rest =>
    if isSlash true a && isSlash true b then
      let hostText := rest.takeWhile (!endsAuthority true ·)
      if hostText.isEmpty || isDrive hostText then .ok (withFilePath (.name []) rest)
      else do
        let host ← Host.ofText hostText
        let host := if host = .name "localhost".toList then .name [] else host
        return withFilePath host (rest.dropWhile (!endsAuthority true ·))
    else .ok (withFilePath (.name []) cs)
  | _ => .ok (withFilePath (.name []) cs)

/-- A URL given relative to another one. -/
def relativeTo (base : Url) (cs : List Char) : Except UrlError Url :=
  let special := isSpecial base.scheme
  match base.path, cs with
  | .plain _, '#' :: rest =>
    .ok { base with fragment := some (Text.percentEncode keepsInFragment rest) }
  | .plain _, _ => .error .flatBase
  | .segments _, [] => .ok { base with fragment := none }
  | .segments _, '#' :: rest =>
    .ok { base with fragment := some (Text.percentEncode keepsInFragment rest) }
  | .segments _, '?' :: rest => .ok (withTail base ('?' :: rest))
  | .segments names, c :: rest =>
    if isSlash special c then
      match rest with
      | d :: more =>
        if isSlash special d then
          withAuthority base.scheme
            (if c = '/' && d = '/' then more else more.dropWhile (isSlash special))
        else .ok (withPath base (c :: rest))
      | [] => .ok (withPath base (c :: rest))
    else
      let path := (c :: rest).takeWhile (!endsPath ·)
      let tail := (c :: rest).dropWhile (!endsPath ·)
      .ok (withTail { base with path := pathFrom special names.dropLast path } tail)

/-- A URL that may be relative to a base. -/
def read (base : Option Url) (text : String) : Except UrlError Url :=
  let cs := relevant text.toList
  match splitScheme? cs, base with
  | none, none => .error .noBase
  | none, some base => relativeTo base cs
  | some (scheme, rest), base =>
    if scheme = "file".toList then ofFile rest
    else if isSpecial scheme then
      let slashes := (rest.takeWhile (isSlash true)).length
      match base with
      | some base =>
        if slashes < 2 && base.scheme = scheme then relativeTo base rest
        else withAuthority scheme (rest.dropWhile (isSlash true))
      | none => withAuthority scheme (rest.dropWhile (isSlash true))
    else match rest with
      | '/' :: '/' :: more => withAuthority scheme more
      | '/' :: _ => .ok (withPath { scheme } rest)
      | _ =>
        let path := rest.takeWhile (!endsPath ·)
        .ok (withTail { scheme, path := .plain (Text.percentEncode (Text.isPlain "") path) }
          (rest.dropWhile (!endsPath ·)))

/-- The URL that a text writes. -/
def parse (text : String) : Except UrlError Url :=
  read none text

/-- The URL that a text means when it stands in a document at `base`. -/
def join (base : Url) (text : String) : Except UrlError Url :=
  read (some base) text

/-- The path with an empty segment at its end, as that of a directory has. -/
def asDirectory (url : Url) : Url :=
  match url.path with
  | .plain _ => url
  | .segments names =>
    if names.getLast? = some [] then url else { url with path := .segments (names ++ [[]]) }

/-- The URL of an entry of a directory, unless the path has no segments.  The name is one segment
whatever it holds, except that a name of dots alone is no segment. -/
def entry? (url : Url) (name : String) : Option Url :=
  match url.path with
  | .plain _ => none
  | .segments names =>
    let directory := if names.getLast? = some [] then names.dropLast else names
    let directory := if directory = [[]] then [] else directory
    if name = "." || name = ".." then
      some { url with path := .segments (if directory.isEmpty then [[]] else directory) }
    else
      let segment := Text.percentEncode (keepsInSegment (isSpecial url.scheme))
        (name.toList.filter fun c => !"\t\n\r".toList.contains c)
      some { url with path := .segments (walk directory.reverse [segment]) }

end CriteriaSearch.Url
