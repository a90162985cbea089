import CriteriaSearch.Text.Digits
import CriteriaSearch.Yaml.Characters

/-!
# Tags, anchors and directives

In front of a node there may be a name for it, its anchor, and a tag that says what it is.  A tag is
written in full or abbreviated by a handle, and a directive in front of the document says what a
handle stands for.  Each function here reads the rest of one of these and returns what it says
together with the characters behind it.

The text of a tag is a row of octets.  It is kept as a text with one character for each octet.
-/

namespace CriteriaSearch.Yaml

/-- A tag as it is written: a handle, which is empty for a tag in full, and what follows it. -/
structure TagName where
  handle : String
  suffix : String
  deriving DecidableEq, Inhabited

/-- What a directive says. -/
inductive Directive where
  | version (major minor : Nat)
  | tagHandle (handle tag : String)
  deriving DecidableEq

/-- Whether the name of an anchor may stop here. -/
def endsAnchor (spots : List Spot) : Bool :=
  endsWord spots || spots.head?.any fun next => "?:,]\x7d%@`".toList.contains next.char

/-- The name of an anchor, behind the mark for an anchor or a reference. -/
def anchorName? (spots : List Spot) : Option (String × List Spot) :=
  let (name, rest) := spanSpots isNameChar spots
  if name.isEmpty || !endsAnchor rest then none else some (String.ofList name, rest)

theorem anchorName?_suffix {spots rest : List Spot} {name : String}
    (read : anchorName? spots = some (name, rest)) : rest <:+ spots := by
  have spanned := spanSpots_suffix isNameChar spots
  unfold anchorName? at read
  split at read
  next chars behind parts =>
  rw [parts] at spanned
  split at read
  · cases read
  · cases read
    exact spanned

/-- Whether a character may stand in a tag as it is.  Commas and square brackets may do so in a tag
that is written in full. -/
def isTagChar (full : Bool) (c : Char) : Bool :=
  isNameChar c || ";/?:@&=+$.!~*'()".toList.contains c || (full && ",[]".toList.contains c)

/-- How many octets of a character are missing after an octet, if it may follow an octet after which
`missing` are. -/
def octetsMissing? (missing octet : Nat) : Option Nat :=
  if 0 < missing then
    if 0x80 ≤ octet && octet < 0xC0 then some (missing - 1) else none
  else if octet < 0x80 then some 0
  else if octet < 0xC0 then none
  else if octet < 0xE0 then some 1
  else if octet < 0xF0 then some 2
  else if octet < 0xF8 then some 3
  else none

/-- The octet that two hexadecimal digits stand for. -/
def octet? (high low : Spot) : Option Nat := do
  let high ← Text.hexDigit? high.char
  let low ← Text.hexDigit? low.char
  some (16 * high + low)

/-- The octets of a tag, as far as they go. -/
def tagOctets? (full : Bool) : (missing : Nat) → List Spot → Option (List Char × List Spot)
  | missing, [] => if missing = 0 then some ([], []) else none
  | missing, spot :: rest =>
    if spot.char = '%' then
      match rest with
      | high :: low :: after => do
        let octet ← octet? high low
        let (octets, behind) ← tagOctets? full (← octetsMissing? missing octet) after
        some (Char.ofNat octet :: octets, behind)
      | _ => none
    else if 0 < missing then none
    else if isTagChar full spot.char then do
      let (octets, behind) ← tagOctets? full 0 rest
      some (spot.char :: octets, behind)
    else some ([], spot :: rest)

theorem tagOctets?_suffix {full : Bool} {missing : Nat} {spots rest : List Spot}
    {octets : List Char} (read : tagOctets? full missing spots = some (octets, rest)) :
    rest <:+ spots := by
  fun_induction tagOctets? full missing spots generalizing octets with
  | case1 | case7 =>
      cases read
      exact List.suffix_refl _
  | case2 | case4 | case5 => cases read
  | case3 missing spot escape high low after ih =>
      rcases Option.bind_eq_some_iff.1 read with ⟨octet, -, read⟩
      rcases Option.bind_eq_some_iff.1 read with ⟨left, -, read⟩
      rcases Option.bind_eq_some_iff.1 read with ⟨⟨later, behind⟩, further, read⟩
      cases read
      have digits : after <:+ high :: low :: after :=
        (List.suffix_cons low after).trans (List.suffix_cons high _)
      exact (ih left further).trans (digits.trans (List.suffix_cons spot _))
  | case6 missing spot after _ _ _ ih =>
      rcases Option.bind_eq_some_iff.1 read with ⟨⟨later, behind⟩, further, read⟩
      cases read
      exact (ih further).trans (List.suffix_cons spot after)

/-- The text of a tag that is not empty.  An octet that is zero ends it. -/
def tagText? (full : Bool) (spots : List Spot) : Option (String × List Spot) := do
  let (octets, rest) ← tagOctets? full 0 spots
  if octets.isEmpty then none
  else some (String.ofList (octets.takeWhile (0 < ·.toNat)), rest)

theorem tagText?_suffix {full : Bool} {spots rest : List Spot} {text : String}
    (read : tagText? full spots = some (text, rest)) : rest <:+ spots := by
  rcases Option.bind_eq_some_iff.1 read with ⟨⟨octets, behind⟩, listed, read⟩
  dsimp only at read
  split at read
  · cases read
  · cases read
    exact tagOctets?_suffix listed

/-- The name in a handle, behind its exclamation mark, and whether there is a second mark. -/
def handleName (spots : List Spot) : List Char × Bool × List Spot :=
  let (name, rest) := spanSpots isNameChar spots
  match rest with
  | next :: after => if next.char = '!' then (name, true, after) else (name, false, rest)
  | [] => (name, false, [])

theorem handleName_suffix (spots : List Spot) : (handleName spots).2.2 <:+ spots := by
  have spanned := spanSpots_suffix isNameChar spots
  unfold handleName
  split
  next name rest parts =>
  rw [parts] at spanned
  split
  · next next after =>
    split
    · exact (List.suffix_cons next after).trans spanned
    · exact spanned
  · exact List.nil_suffix

/-- A tag, behind its exclamation mark. -/
def tagName? (spots : List Spot) : Option (TagName × List Spot) :=
  match spots with
  | spot :: inner =>
    if spot.char = '<' then do
      let (text, rest) ← tagText? true inner
      match rest with
      | next :: after => if next.char = '>' then some (⟨"", text⟩, after) else none
      | [] => none
    else
      match handleName spots with
      | (name, true, rest) => do
        let (suffix, rest) ← tagText? false rest
        some (⟨String.ofList ('!' :: name ++ ['!']), suffix⟩, rest)
      | (_, false, _) => do
        let (octets, rest) ← tagOctets? false 0 spots
        let suffix := String.ofList (octets.takeWhile (0 < ·.toNat))
        some (if suffix.isEmpty then ⟨"", "!"⟩ else ⟨"!", suffix⟩, rest)
  | [] => some (⟨"", "!"⟩, [])

theorem tagName?_suffix {spots rest : List Spot} {tag : TagName}
    (read : tagName? spots = some (tag, rest)) : rest <:+ spots := by
  unfold tagName? at read
  split at read
  · next spot inner =>
    split at read
    · -- A tag in full stands between angle brackets.
      rcases Option.bind_eq_some_iff.1 read with ⟨⟨text, behind⟩, written, read⟩
      have inside := (tagText?_suffix written).trans (List.suffix_cons spot inner)
      cases behind with
      | nil => cases read
      | cons next after =>
          dsimp only at read
          split at read
          · cases read
            exact (List.suffix_cons next _).trans inside
          · cases read
    · have named := handleName_suffix (spot :: inner)
      split at read
      · next name behind handle =>
        rw [handle] at named
        rcases Option.bind_eq_some_iff.1 read with ⟨⟨suffix, after⟩, written, read⟩
        cases read
        exact (tagText?_suffix written).trans named
      · rcases Option.bind_eq_some_iff.1 read with ⟨⟨octets, after⟩, written, read⟩
        cases read
        exact tagOctets?_suffix written
  · cases read
    exact List.suffix_refl []

/-- A number of at most nine digits. -/
def shortNumber? (spots : List Spot) : Option (Nat × List Spot) :=
  let (digits, rest) := spanSpots Char.isDigit spots
  if 9 < digits.length then none
  else (Text.numeral? 10 digits).map (·, rest)

theorem shortNumber?_suffix {spots rest : List Spot} {n : Nat}
    (read : shortNumber? spots = some (n, rest)) : rest <:+ spots := by
  have spanned := spanSpots_suffix Char.isDigit spots
  unfold shortNumber? at read
  split at read
  next digits behind parts =>
  rw [parts] at spanned
  split at read
  · cases read
  · rcases Option.map_eq_some_iff.1 read with ⟨value, -, same⟩
    cases same
    exact spanned

/-- What a directive says about the version, and what follows its line. -/
def version? (spots : List Spot) : Option (Directive × List Spot) := do
  let (major, rest) ← shortNumber? spots
  match rest with
  | point :: rest =>
    if point.char = '.' then do
      let (minor, rest) ← shortNumber? rest
      some (.version major minor, ← restOfLine? rest)
    else none
  | [] => none

theorem version?_suffix {spots rest : List Spot} {directive : Directive}
    (read : version? spots = some (directive, rest)) : rest <:+ spots := by
  rcases Option.bind_eq_some_iff.1 read with ⟨⟨major, behind⟩, first, read⟩
  cases behind with
  | nil => cases read
  | cons point after =>
      dsimp only at read
      split at read
      · rcases Option.bind_eq_some_iff.1 read with ⟨⟨minor, line⟩, second, read⟩
        rcases Option.bind_eq_some_iff.1 read with ⟨below, passed, read⟩
        cases read
        have pointed : after <:+ spots :=
          (List.suffix_cons point after).trans (shortNumber?_suffix first)
        have numbered : line <:+ spots := (shortNumber?_suffix second).trans pointed
        exact (restOfLine?_suffix passed).trans numbered
      · cases read

/-- What a directive says about a handle, and what follows its line. -/
def tagHandle? (spots : List Spot) : Option (Directive × List Spot) :=
  match spots with
  | mark :: rest =>
    let (name, closed, rest) := handleName rest
    let handle := '!' :: name ++ (if closed then ['!'] else [])
    let start := rest.dropWhile fun spot => isPadding spot.char
    if mark.char ≠ '!' || (!closed && !name.isEmpty) || start.length = rest.length then none
    else do
      let (tag, rest) ← tagText? true start
      if endsWord rest then some (.tagHandle (String.ofList handle) tag, ← restOfLine? rest)
      else none
  | [] => none

theorem tagHandle?_suffix {spots rest : List Spot} {directive : Directive}
    (read : tagHandle? spots = some (directive, rest)) : rest <:+ spots := by
  unfold tagHandle? at read
  split at read
  · next mark after =>
    have named := handleName_suffix after
    split at read
    next name closed behind handle =>
    rw [handle] at named
    have start : behind.dropWhile (fun spot => isPadding spot.char) <:+ mark :: after :=
      (List.dropWhile_suffix _).trans (named.trans (List.suffix_cons mark after))
    dsimp only at read
    split at read
    · cases read
    · rcases Option.bind_eq_some_iff.1 read with ⟨⟨tag, line⟩, written, read⟩
      dsimp only at read
      split at read
      · rcases Option.bind_eq_some_iff.1 read with ⟨below, passed, read⟩
        cases read
        exact (restOfLine?_suffix passed).trans ((tagText?_suffix written).trans start)
      · cases read
  · cases read

/-- A directive behind its percent sign, and what follows its line. -/
def directive? (spots : List Spot) : Option (Directive × List Spot) :=
  let (name, rest) := spanSpots isNameChar spots
  let start := rest.dropWhile fun spot => isPadding spot.char
  if !endsWord rest then none
  else if name = "YAML".toList then version? start
  else if name = "TAG".toList then tagHandle? start
  else none

theorem directive?_suffix {spots rest : List Spot} {directive : Directive}
    (read : directive? spots = some (directive, rest)) : rest <:+ spots := by
  have spanned := spanSpots_suffix isNameChar spots
  unfold directive? at read
  split at read
  next name behind parts =>
  rw [parts] at spanned
  have start : behind.dropWhile (fun spot => isPadding spot.char) <:+ spots :=
    (List.dropWhile_suffix _).trans spanned
  dsimp only at read
  split at read
  · cases read
  split at read
  · exact (version?_suffix read).trans start
  split at read
  · exact (tagHandle?_suffix read).trans start
  · cases read

end CriteriaSearch.Yaml
