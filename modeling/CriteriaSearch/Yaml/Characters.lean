/-!
# Characters of YAML texts

Structure is a matter of lines and columns in YAML, so the characters of a text are first placed:
each one knows its line, its column and how many bytes of the text are in front of it.  Ends of
lines are made uniform on the way.

Everything that reads placed characters returns those that it has not read, and what it returns is
the end of what it was given.
-/

namespace CriteriaSearch.Yaml

/-- A character of a text and where it stands. -/
structure Spot where
  char : Char
  line : Nat
  column : Nat
  offset : Nat

/-- Whether a character ends a line, once the ends of lines have been made uniform. -/
def isBreak (c : Char) : Bool :=
  c = '\n' || c = '\u2028' || c = '\u2029'

/-- Whether a character is a space or a tab. -/
def isPadding (c : Char) : Bool :=
  c = ' ' || c = '\t'

/-- Whether a character may stand in a name: a letter, a digit, a hyphen or an underscore. -/
def isNameChar (c : Char) : Bool :=
  c.isAlphanum || c = '_' || c = '-'

/-- Whether a character may stand in a text at all. -/
def isPrintable (c : Char) : Bool :=
  let n := c.toNat
  n = 0x09 || n = 0x0A || n = 0x0D || (0x20 ≤ n && n ≤ 0x7E) || n = 0x85 ||
    (0xA0 ≤ n && n ≤ 0xD7FF) || (0xE000 ≤ n && n ≤ 0xFFFD) || 0x10000 ≤ n

/-- The text with one character for the end of a line. -/
def unifyBreaks : List Char → List Char
  | [] => []
  | '\r' :: '\n' :: rest => '\n' :: unifyBreaks rest
  | c :: rest => (if c = '\r' || c = '\u0085' then '\n' else c) :: unifyBreaks rest

/-- Characters with their places, from a given place on. -/
def place (line column offset : Nat) : List Char → List Spot
  | [] => []
  | c :: rest =>
    let next := offset + c.utf8Size
    ⟨c, line, column, offset⟩ ::
      (if isBreak c then place (line + 1) 0 next rest else place line (column + 1) next rest)

/-- The placed characters of a text, if all of them may stand in one. -/
def spots? (text : String) : Option (List Spot) :=
  let cs := text.toList
  if cs.all isPrintable then some (place 0 0 0 (unifyBreaks cs)) else none

/-- Whether the text stops here or goes on with white space. -/
def endsWord : List Spot → Bool
  | [] => true
  | spot :: _ => isBreak spot.char || isPadding spot.char

/-- Whether the text or the line stops here. -/
def endsLine : List Spot → Bool
  | [] => true
  | spot :: _ => isBreak spot.char

/-- Whether three marks at the start of a line set off a document here. -/
def isBoundary (mark : Char) : List Spot → Bool
  | a :: b :: c :: rest =>
    a.column = 0 && a.char = mark && b.char = mark && c.char = mark && endsWord rest
  | _ => false

/-- Whether a document starts or ends here. -/
def atBoundary (spots : List Spot) : Bool :=
  isBoundary '-' spots || isBoundary '.' spots

/-- The characters in front of the first one that fails a test, and the rest. -/
def spanSpots (test : Char → Bool) (spots : List Spot) : List Char × List Spot :=
  ((spots.takeWhile fun spot => test spot.char).map Spot.char,
    spots.dropWhile fun spot => test spot.char)

theorem spanSpots_suffix (test : Char → Bool) (spots : List Spot) :
    (spanSpots test spots).2 <:+ spots :=
  List.dropWhile_suffix _

/-- What follows padding and a comment, if the line then is at its end; the end of the line is
passed over as well. -/
def restOfLine? (spots : List Spot) : Option (List Spot) :=
  let spots := spots.dropWhile fun spot => isPadding spot.char
  let spots := match spots with
    | spot :: _ => if spot.char = '#' then spots.dropWhile (!isBreak ·.char) else spots
    | [] => []
  if endsLine spots then some (spots.drop 1) else none

theorem restOfLine?_suffix {spots rest : List Spot} (read : restOfLine? spots = some rest) :
    rest <:+ spots := by
  have ended {behind : List Spot} (within : behind <:+ spots)
      (read : (if endsLine behind then some (behind.drop 1) else none) = some rest) :
      rest <:+ spots := by
    split at read
    · cases read
      exact (List.drop_suffix 1 behind).trans within
    · cases read
  have unpadded : spots.dropWhile (fun spot => isPadding spot.char) <:+ spots :=
    List.dropWhile_suffix _
  refine ended ?_ read
  split
  · split
    · exact (List.dropWhile_suffix _).trans unpadded
    · exact unpadded
  · exact List.nil_suffix

/-- Passes over white space and comments in front of a token.  A tab is white space inside flow
collections and after something on the same line; where a key of a block mapping may start it is
none.  The end of a line allows such a key in block structure, and a byte order mark may stand at
the start of a line. -/
def gap (flow : Bool) : (keyAllowed comment : Bool) → List Spot → Bool × List Spot
  | keyAllowed, _, [] => (keyAllowed, [])
  | keyAllowed, comment, spot :: rest =>
    if isBreak spot.char then gap flow (keyAllowed || !flow) false rest
    else if comment then gap flow keyAllowed true rest
    else if spot.column = 0 && spot.char = '\ufeff' then gap flow keyAllowed false rest
    else if spot.char = ' ' || (spot.char = '\t' && (flow || !keyAllowed)) then
      gap flow keyAllowed false rest
    else if spot.char = '#' then gap flow keyAllowed true rest
    else (keyAllowed, spot :: rest)

theorem gap_suffix (flow keyAllowed comment : Bool) (spots : List Spot) :
    (gap flow keyAllowed comment spots).2 <:+ spots := by
  induction spots generalizing keyAllowed comment with
  | nil => exact List.suffix_refl []
  | cons spot rest ih =>
      have behind (keyAllowed comment : Bool) :
          (gap flow keyAllowed comment rest).2 <:+ spot :: rest :=
        (ih keyAllowed comment).trans (List.suffix_cons spot rest)
      unfold gap
      split
      · exact behind _ _
      split
      · exact behind _ _
      split
      · exact behind _ _
      split
      · exact behind _ _
      split
      · exact behind _ _
      · exact List.suffix_refl _

end CriteriaSearch.Yaml
