import CriteriaSearch.Text.Digits
import CriteriaSearch.Yaml.Characters

/-!
# Reading YAML scalars

A scalar is plain, in single or double quotes, or a block of lines.  Each function here reads the
rest of one kind of scalar and returns its text together with the characters behind it.  In all
of them but literal blocks the end of a line means a space, and several ends of lines mean one
end of a line less.
-/

namespace CriteriaSearch.Yaml

/-- White space since the last character of a scalar. -/
inductive Pause where
  | none
  /-- Spaces and tabs, in reverse. -/
  | padding (chars : List Char)
  /-- Ends of lines, all but the first in reverse.  The first one has no character if the scalar
  says that the line goes on. -/
  | lines (first : Option Char) (more : List Char)

namespace Pause

/-- A space or a tab is added; at the start of a line it does not count. -/
def pad (c : Char) : Pause → Pause
  | .none => .padding [c]
  | .padding chars => .padding (c :: chars)
  | .lines first more => .lines first more

/-- The end of a line is added; white space in front of it does not count. -/
def endLine (c : Char) : Pause → Pause
  | .none | .padding _ => .lines (some c) []
  | .lines first more => .lines first (c :: more)

/-- What the pause means, put in front of the reversed characters of the scalar.  One end of a
line means a space, and of several the first one means nothing. -/
def flush (out : List Char) : Pause → List Char
  | .none => out
  | .padding chars => chars ++ out
  | .lines (some '\n') [] => ' ' :: out
  | .lines (some '\n') more => more ++ out
  | .lines first more => more ++ first.toList ++ out

/-- Whether the scalar has gone on to another line. -/
def isLines : Pause → Bool
  | .lines _ _ => true
  | .none | .padding _ => false

/-- Whether there is any white space. -/
def isSome : Pause → Bool
  | .none => false
  | .lines _ _ | .padding _ => true

end Pause

/-! ## Quoted scalars -/

/-- The rest of a scalar in single quotes; two quotes in a row are one quote of the scalar. -/
def singleQuoted : (out : List Char) → Pause → List Spot → Option (String × List Spot)
  | _, _, [] => none
  | out, pause, spot :: rest =>
    if isBreak spot.char then singleQuoted out (pause.endLine spot.char) rest
    else if isPadding spot.char then singleQuoted out (pause.pad spot.char) rest
    else if atBoundary (spot :: rest) then none
    else if spot.char = '\'' then
      match rest with
      | next :: after =>
        if next.char = '\'' then singleQuoted ('\'' :: pause.flush out) .none after
        else some (String.ofList (pause.flush out).reverse, next :: after)
      | [] => some (String.ofList (pause.flush out).reverse, [])
    else singleQuoted (spot.char :: pause.flush out) .none rest

/-- The character that an escape of two characters stands for. -/
def escaped? (c : Char) : Option Char :=
  match c with
  | '0' => some (Char.ofNat 0)
  | 'a' => some (Char.ofNat 7)
  | 'b' => some (Char.ofNat 8)
  | 't' | '\t' => some '\t'
  | 'n' => some '\n'
  | 'v' => some (Char.ofNat 11)
  | 'f' => some (Char.ofNat 12)
  | 'r' => some '\r'
  | 'e' => some (Char.ofNat 27)
  | ' ' => some ' '
  | '"' => some '"'
  | '/' => some '/'
  | '\\' => some '\\'
  | 'N' => some '\u0085'
  | '_' => some '\u00a0'
  | 'L' => some '\u2028'
  | 'P' => some '\u2029'
  | _ => none

/-- How many hexadecimal digits an escape has. -/
def codeLength? (c : Char) : Option Nat :=
  match c with
  | 'x' => some 2
  | 'u' => some 4
  | 'U' => some 8
  | _ => none

/-- The rest of a scalar in double quotes.  `code` is an escape by code point that is being read:
how many digits are missing and the value so far. -/
def doubleQuoted : (out : List Char) → Pause → (code : Option (Nat × Nat)) → List Spot →
    Option (String × List Spot)
  | _, _, _, [] => none
  | out, pause, some (missing, value), spot :: rest =>
    match Text.hexDigit? spot.char with
    | none => none
    | some d =>
      let value := 16 * value + d
      if 1 < missing then doubleQuoted out pause (some (missing - 1, value)) rest
      else if value.isValidChar then doubleQuoted (Char.ofNat value :: out) pause none rest
      else none
  | out, pause, none, spot :: rest =>
    if isBreak spot.char then doubleQuoted out (pause.endLine spot.char) none rest
    else if isPadding spot.char then doubleQuoted out (pause.pad spot.char) none rest
    else if atBoundary (spot :: rest) then none
    else if spot.char = '"' then some (String.ofList (pause.flush out).reverse, rest)
    else if spot.char = '\\' then
      match rest with
      | [] => none
      | next :: after =>
        if isBreak next.char then doubleQuoted (pause.flush out) (.lines none []) none after
        else match escaped? next.char, codeLength? next.char with
          | some c, _ => doubleQuoted (c :: pause.flush out) .none none after
          | none, some length => doubleQuoted (pause.flush out) .none (some (length, 0)) after
          | none, none => none
    else doubleQuoted (spot.char :: pause.flush out) .none none rest

theorem singleQuoted_suffix {out : List Char} {pause : Pause} {spots rest : List Spot}
    {text : String} (read : singleQuoted out pause spots = some (text, rest)) : rest <:+ spots := by
  fun_induction singleQuoted out pause spots with
  | case1 | case4 => cases read
  | case2 | case3 | case8 =>
      next ih => exact (ih read).trans (List.suffix_cons _ _)
  | case5 =>
      next ih => exact (ih read).trans ((List.suffix_cons _ _).trans (List.suffix_cons _ _))
  | case6 | case7 =>
      cases read
      exact List.suffix_cons _ _

theorem doubleQuoted_suffix {out : List Char} {pause : Pause} {code : Option (Nat × Nat)}
    {spots rest : List Spot} {text : String}
    (read : doubleQuoted out pause code spots = some (text, rest)) : rest <:+ spots := by
  fun_induction doubleQuoted out pause code spots with
  | case1 | case2 | case5 | case8 | case10 | case14 => cases read
  | case3 | case4 | case6 | case7 | case15 =>
      next ih => exact (ih read).trans (List.suffix_cons _ _)
  | case9 =>
      cases read
      exact List.suffix_cons _ _
  | case11 | case12 | case13 =>
      -- An escape takes two characters.
      next ih => exact (ih read).trans ((List.suffix_cons _ _).trans (List.suffix_cons _ _))

/-! ## Plain scalars -/

/-- The characters that end a plain scalar inside a flow collection. -/
def isFlowMark (c : Char) : Bool :=
  ",[]\x7b\x7d".toList.contains c

/-- Whether a plain scalar may start here. -/
def startsPlain (flow : Bool) (spot : Spot) (rest : List Spot) : Bool :=
  if isBreak spot.char || isPadding spot.char then false
  else if spot.char = '-' then !endsWord rest
  else if spot.char = '?' || spot.char = ':' then !flow && !endsWord rest
  else !",[]\x7b\x7d#&*!|>'\"%@`".toList.contains spot.char

/-- The rest of a plain scalar, as far as it goes, and whether it was left at the start of a line.
It ends at a comment, at a colon before white space, at a mark of the flow collection that it
stands in, and in block structure at a line that does not reach the column `floor`.  No tab may
stand in front of that column. -/
def plainScalar (flow : Bool) (floor : Int) :
    (out : List Char) → Pause → List Spot → Option (String × Bool × List Spot)
  | out, pause, [] => some (String.ofList out.reverse, pause.isLines, [])
  | out, pause, spot :: rest =>
    if isBreak spot.char then plainScalar flow floor out (pause.endLine spot.char) rest
    else if isPadding spot.char then
      if pause.isLines && spot.char = '\t' && spot.column < floor then none
      else plainScalar flow floor out (pause.pad spot.char) rest
    else
      let ends : Bool :=
        (pause.isSome && spot.char = '#') ||
          (pause.isLines && !flow && spot.column < floor) ||
          atBoundary (spot :: rest) ||
          (spot.char = ':' && endsWord rest) ||
          (flow && isFlowMark spot.char)
      if ends then some (String.ofList out.reverse, pause.isLines, spot :: rest)
      else if flow && spot.char = ':' &&
          rest.head?.any (fun next => next.char = '?' || isFlowMark next.char) then none
      else plainScalar flow floor (spot.char :: pause.flush out) .none rest

theorem plainScalar_suffix {flow : Bool} {floor : Int} {out : List Char} {pause : Pause}
    {spots rest : List Spot} {text : String} {atLineStart : Bool}
    (read : plainScalar flow floor out pause spots = some (text, atLineStart, rest)) :
    rest <:+ spots := by
  fun_induction plainScalar flow floor out pause spots with
  | case1 | case5 =>
      cases read
      exact List.suffix_refl _
  | case2 | case4 | case7 =>
      next ih => exact (ih read).trans (List.suffix_cons _ _)
  | case3 | case6 => cases read

/-! ## Blocks of lines -/

/-- What becomes of the ends of lines at the end of a block. -/
inductive Chomping where
  | strip
  | clip
  | keep
  deriving DecidableEq

/-- What the first line of a block says behind its mark: what becomes of the last ends of lines,
and by how many columns the block is indented if that is said. -/
structure BlockHeader where
  chomping : Chomping := .clip
  increment : Option Nat := none

namespace BlockHeader

/-- A mark for the end of a block. -/
def chomping? : Char → Option Chomping
  | '+' => some .keep
  | '-' => some .strip
  | _ => none

/-- Reads a mark if there is one. -/
def mark? {α : Type} (meaning? : Char → Option α) (spots : List Spot) : Option α × List Spot :=
  match spots with
  | [] => (none, [])
  | spot :: rest =>
    match meaning? spot.char with
    | some meaning => (some meaning, rest)
    | none => (none, spot :: rest)

theorem mark?_suffix {α : Type} (meaning? : Char → Option α) (spots : List Spot) :
    (mark? meaning? spots).2 <:+ spots := by
  unfold mark?
  split
  · exact List.suffix_refl []
  · next spot rest =>
    split
    · exact List.suffix_cons spot rest
    · exact List.suffix_refl _

/-- Reads the marks in the first line of a block, in either order, and what follows that line. -/
def read? (spots : List Spot) : Option (BlockHeader × List Spot) :=
  let (first, spots) := mark? chomping? spots
  let (increment, spots) := mark? Text.digit? spots
  let (last, spots) := if first.isSome then (none, spots) else mark? chomping? spots
  if increment = some 0 then none
  else
    (restOfLine? spots).map fun rest =>
      ({ chomping := (first.or last).getD .clip, increment }, rest)

theorem read?_suffix {spots rest : List Spot} {header : BlockHeader}
    (read : read? spots = some (header, rest)) : rest <:+ spots := by
  have first := mark?_suffix chomping? spots
  have second := (mark?_suffix Text.digit? (mark? chomping? spots).2).trans first
  have third :=
    (mark?_suffix chomping? (mark? Text.digit? (mark? chomping? spots).2).2).trans second
  unfold read? at read
  dsimp only at read
  split at read
  · cases read
  · rcases Option.map_eq_some_iff.1 read with ⟨line, passed, same⟩
    cases same
    refine (restOfLine?_suffix passed).trans ?_
    split
    · exact second
    · exact third

end BlockHeader

/-- Passes over empty lines in front of a block that does not say how far it is indented, and finds
out: as far as its first line that is not empty, but no less than `floor` and no less than any of
the lines before. -/
def blockIndent (floor : Nat) : (widest : Nat) → (breaks : List Char) → List Spot →
    Option (Nat × List Char × List Spot)
  | widest, breaks, [] => some (max widest floor, breaks, [])
  | widest, breaks, spot :: rest =>
    if spot.char = ' ' then blockIndent floor widest breaks rest
    else if spot.char = '\t' then none
    else
      let widest := max widest spot.column
      if isBreak spot.char then blockIndent floor widest (spot.char :: breaks) rest
      else some (max widest floor, breaks, spot :: rest)

theorem blockIndent_suffix {floor widest indent : Nat} {breaks breaks' : List Char}
    {spots rest : List Spot}
    (read : blockIndent floor widest breaks spots = some (indent, breaks', rest)) :
    rest <:+ spots := by
  induction spots generalizing widest breaks with
  | nil =>
      cases read
      exact List.suffix_refl []
  | cons spot tail ih =>
      unfold blockIndent at read
      split at read
      · exact (ih read).trans (List.suffix_cons spot tail)
      split at read
      · cases read
      dsimp only at read
      split at read
      · exact (ih read).trans (List.suffix_cons spot tail)
      · cases read
        exact List.suffix_refl _

/-- How far a block is indented inside a collection that is indented by `outer` columns, with the
empty lines that have been passed over to find that out. -/
def BlockHeader.start? (header : BlockHeader) (outer : Int) (body : List Spot) :
    Option (Nat × List Char × List Spot) :=
  match header.increment with
  | some increment => some ((max outer 0).toNat + increment, [], body)
  | none => blockIndent (max (outer + 1) 1).toNat 0 [] body

theorem BlockHeader.start?_suffix {header : BlockHeader} {outer : Int} {body rest : List Spot}
    {indent : Nat} {breaks : List Char}
    (found : header.start? outer body = some (indent, breaks, rest)) : rest <:+ body := by
  unfold start? at found
  split at found
  · cases found
    exact List.suffix_refl body
  · exact blockIndent_suffix found

/-- The lines of a block that have been read, and where in them the reader is. -/
structure BlockLines where
  /-- Characters in reverse. -/
  out : List Char := []
  /-- The end of the last line. -/
  lastBreak : Option Char := none
  /-- Ends of empty lines after it, in reverse. -/
  breaks : List Char := []
  /-- Whether the last line starts with white space. -/
  padded : Bool := false
  /-- Whether the reader is inside a line. -/
  inLine : Bool := false

namespace BlockLines

/-- The start of a line.  In a folded block the end of the line before means a space, or nothing
where empty lines follow it, unless one of the two lines starts with white space. -/
def startLine (folds : Bool) (c : Char) (lines : BlockLines) : BlockLines :=
  let padded := isPadding c
  let joint :=
    if folds && lines.lastBreak = some '\n' && !lines.padded && !padded then
      if lines.breaks.isEmpty then [' '] else []
    else lines.lastBreak.toList
  { out := c :: (lines.breaks ++ joint ++ lines.out), padded, inLine := true }

/-- The text of the block. -/
def text (chomping : Chomping) (lines : BlockLines) : String :=
  let lastBreak := if chomping = .strip then [] else lines.lastBreak.toList
  let breaks := if chomping = .keep then lines.breaks else []
  String.ofList (breaks ++ lastBreak ++ lines.out).reverse

end BlockLines

/-- The lines of a block that is indented by `indent` columns. -/
def blockLines (folds : Bool) (indent : Nat) :
    BlockLines → List Spot → Option (BlockLines × List Spot)
  | lines, [] => some (lines, [])
  | lines, spot :: rest =>
    if lines.inLine then
      if isBreak spot.char then
        blockLines folds indent
          { lines with lastBreak := some spot.char, breaks := [], inLine := false } rest
      else blockLines folds indent { lines with out := spot.char :: lines.out } rest
    else if spot.column < indent && spot.char = ' ' then blockLines folds indent lines rest
    else if spot.column < indent && spot.char = '\t' then none
    else if isBreak spot.char then
      blockLines folds indent { lines with breaks := spot.char :: lines.breaks } rest
    else if spot.column = indent then
      blockLines folds indent (lines.startLine folds spot.char) rest
    else some (lines, spot :: rest)

theorem blockLines_suffix {folds : Bool} {indent : Nat} {lines lines' : BlockLines}
    {spots rest : List Spot} (read : blockLines folds indent lines spots = some (lines', rest)) :
    rest <:+ spots := by
  induction spots generalizing lines with
  | nil =>
      cases read
      exact List.suffix_refl []
  | cons spot tail ih =>
      have behind {next : BlockLines}
          (read : blockLines folds indent next tail = some (lines', rest)) :
          rest <:+ spot :: tail :=
        (ih read).trans (List.suffix_cons spot tail)
      unfold blockLines at read
      split at read
      · split at read
        · exact behind read
        · exact behind read
      split at read
      · exact behind read
      split at read
      · cases read
      split at read
      · exact behind read
      split at read
      · exact behind read
      · cases read
        exact List.suffix_refl _

/-- The rest of a block behind its mark, inside a collection that is indented by `outer` columns. -/
def blockScalar (folds : Bool) (outer : Int) (spots : List Spot) : Option (String × List Spot) := do
  let (header, body) ← BlockHeader.read? spots
  let (indent, breaks, start) ← header.start? outer body
  let (lines, rest) ← blockLines folds indent { breaks } start
  some (lines.text header.chomping, rest)

theorem blockScalar_suffix {folds : Bool} {outer : Int} {spots rest : List Spot} {text : String}
    (read : blockScalar folds outer spots = some (text, rest)) : rest <:+ spots := by
  rcases Option.bind_eq_some_iff.1 read with ⟨⟨header, body⟩, headed, read⟩
  rcases Option.bind_eq_some_iff.1 read with ⟨⟨indent, breaks, start⟩, indented, read⟩
  rcases Option.bind_eq_some_iff.1 read with ⟨⟨lines, behind⟩, lined, read⟩
  cases read
  have within : start <:+ spots :=
    (BlockHeader.start?_suffix indented).trans (BlockHeader.read?_suffix headed)
  exact (blockLines_suffix lined).trans within

end CriteriaSearch.Yaml
