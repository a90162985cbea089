import CriteriaSearch.Domain.Basic
import CriteriaSearch.Text.Percent
import CriteriaSearch.Text.Pieces

/-!
# Hosts

The host of a URL is a name or an address.  A name whose last part is a number is an address of
four bytes, a text in brackets is an address of eight groups, and both are written in one way,
however they were given.  Names are kept in their ASCII form.
-/

namespace CriteriaSearch

/-- Why a text is no URL. -/
inductive UrlError where
  | emptyHost
  | badName
  | badPort
  | badIpv4
  | badIpv6
  | badHostCharacter
  /-- A relative URL where there is nothing that it could be relative to. -/
  | noBase
  /-- A relative URL where the base has no hierarchy. -/
  | flatBase
  deriving DecidableEq

/-- The wording of a problem with a URL. -/
def UrlError.message : UrlError → String
  | .emptyHost => "empty host"
  | .badName => "invalid international domain name"
  | .badPort => "invalid port number"
  | .badIpv4 => "invalid IPv4 address"
  | .badIpv6 => "invalid IPv6 address"
  | .badHostCharacter => "invalid domain character"
  | .noBase => "relative URL without a base"
  | .flatBase => "relative URL with a cannot-be-a-base base"

/-- The host of a URL. -/
inductive Host where
  | name (text : List Char)
  /-- An address of four bytes, as one number. -/
  | ipv4 (address : Nat)
  /-- An address of eight groups of sixteen bits. -/
  | ipv6 (groups : List Nat)
  deriving DecidableEq, Inhabited

namespace Host

/-- A part of an address of four bytes: a decimal, octal or hexadecimal number. -/
def ipv4Part? : List Char → Option Nat
  | [] => none
  | '0' :: 'x' :: [] | '0' :: 'X' :: [] | ['0'] => some 0
  | '0' :: 'x' :: digits | '0' :: 'X' :: digits => Text.numeral? 16 digits
  | '0' :: digits => Text.numeral? 8 digits
  | digits => Text.numeral? 10 digits

/-- The parts of a name between points, without the empty one behind a point at its end. -/
def labels (name : List Char) : List (List Char) :=
  match (Text.pieces '.' name).reverse with
  | [] :: earlier@(_ :: _) => earlier.reverse
  | parts => parts.reverse

/-- Whether the last part of a name is a number. -/
def endsInNumber (name : List Char) : Bool :=
  match (labels name).getLast? with
  | none => false
  | some last => (!last.isEmpty && last.all Char.isDigit) || (ipv4Part? last).isSome

/-- An address of four bytes.  All parts but the last are bytes, and the last one fills up what
they leave. -/
def ipv4? (name : List Char) : Option Nat := do
  let parts ← (labels name).mapM ipv4Part?
  let last ← parts.getLast?
  let bytes := parts.dropLast
  let room := 1 <<< (8 * (4 - bytes.length))
  if 4 < parts.length || bytes.any (255 < ·) || room ≤ last then none
  else
    let high := bytes.foldl (fun n b => 256 * n + b) 0
    some (high * room + last)

/-- The four bytes of an address written with points, as two groups. -/
def embeddedIpv4? (text : List Char) : Option (List Nat) := do
  let parts := Text.pieces '.' text
  let bytes ← parts.mapM (Text.numeral? 10)
  match bytes with
  | [a, b, c, d] =>
    if bytes.any (255 < ·) || parts.any (fun part => 1 < part.length && part.head? = some '0')
    then none
    else some [256 * a + b, 256 * c + d]
  | _ => none

/-- A group of up to four hexadecimal digits. -/
def group? (text : List Char) : Option Nat :=
  if 4 < text.length then none else Text.numeral? 16 text

/-- Groups between colons.  Where `isEnd` holds the last one may be four bytes. -/
def groups? (isEnd : Bool) : List (List Char) → Option (List Nat)
  | [] => some []
  | [last] =>
    if isEnd && last.contains '.' then embeddedIpv4? last else (group? last).map ([·])
  | first :: rest => do
    let group ← group? first
    let others ← groups? isEnd rest
    some (group :: others)

/-- The text before two colons in a row, and the text behind them if there are any. -/
def splitAtGap : List Char → List Char × Option (List Char)
  | [] => ([], none)
  | ':' :: ':' :: rest => ([], some rest)
  | c :: rest =>
    let (before, behind) := splitAtGap rest
    (c :: before, behind)

/-- The groups of one side of the gap. -/
def side? (isEnd : Bool) (text : List Char) : Option (List Nat) :=
  if text.isEmpty then some [] else groups? isEnd (Text.pieces ':' text)

/-- An address of eight groups.  Two colons in a row, at most once, stand for groups of zero. -/
def ipv6? (text : List Char) : Option (List Nat) :=
  match splitAtGap text with
  | (whole, none) => do
    let groups ← side? true whole
    if groups.length = 8 then some groups else none
  | (before, some behind) => do
    let high ← side? false before
    let low ← side? true behind
    if high.length + low.length < 8 then
      some (high ++ List.replicate (8 - high.length - low.length) 0 ++ low)
    else none

/-- Where the first of the longest runs of zeros starts and how long it is. -/
def longestZeros (groups : List Nat) : Nat × Nat :=
  (List.range groups.length).foldl
    (fun best start =>
      let length := ((groups.drop start).takeWhile (· = 0)).length
      if best.2 < length then (start, length) else best)
    (0, 0)

/-- Groups in lower-case hexadecimal digits with colons between them. -/
def groupsText (groups : List Nat) : List Char :=
  Text.joined [':'] (groups.map (Nat.toDigits 16))

/-- The text of a host.  Of the runs of two or more groups of zero in an address the longest is
left out. -/
def text : Host → List Char
  | .name label => label
  | .ipv4 address =>
    Text.joined ['.']
      ([24, 16, 8, 0].map fun shift => Nat.toDigits 10 (address >>> shift % 256))
  | .ipv6 groups =>
    let (start, length) := longestZeros groups
    if length < 2 then ['['] ++ groupsText groups ++ [']']
    else
      ['['] ++ groupsText (groups.take start) ++ [':', ':'] ++
        groupsText (groups.drop (start + length)) ++ [']']

/-- An address in brackets, if the text starts with one. -/
def bracketed? : List Char → Option (Except UrlError Host)
  | '[' :: rest =>
    some <| match rest.getLast? with
      | some ']' => match ipv6? rest.dropLast with
        | some groups => .ok (.ipv6 groups)
        | none => .error .badIpv6
      | _ => .error .badIpv6
  | _ => none

/-- Whether an ASCII character cannot stand in a name. -/
def isForbidden (c : Char) : Bool :=
  Domain.isAscii c && !Text.isPlain " #%/:<>?@[\\]^|" c

/-- The host of a URL for a network. -/
def ofText (text : List Char) : Except UrlError Host :=
  match bracketed? text with
  | some result => result
  | none =>
    match (Text.percentDecode? text).bind Domain.asciiName? with
    | none => .error .badName
    | some ascii =>
      if ascii.isEmpty then .error .emptyHost
      else if ascii.any isForbidden then .error .badName
      else if endsInNumber ascii then
        match ipv4? ascii with
        | some address => .ok (.ipv4 address)
        | none => .error .badIpv4
      else .ok (.name ascii)

/-- The host of a URL whose scheme gives hosts no meaning. -/
def ofUninterpreted (text : List Char) : Except UrlError Host :=
  match bracketed? text with
  | some result => result
  | none =>
    if text.any (fun c => c.toNat = 0 || "\t\n\r #/:<>?@[\\]^|".toList.contains c) then
      .error .badHostCharacter
    else .ok (.name (Text.percentEncode (Text.isPlain "") text))

end Host

end CriteriaSearch
