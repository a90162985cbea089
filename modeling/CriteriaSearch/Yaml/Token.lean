import CriteriaSearch.Yaml.Basic
import CriteriaSearch.Yaml.Properties
import CriteriaSearch.Yaml.Scalar

/-!
# Tokens of YAML texts

A text is cut into tokens.  Some of them stand for characters of the text; others stand for what
indentation says, so that behind the tokens nobody has to look at columns again.

Where a node starts it is not known whether it is a key, because only the colon behind a key says
so.  The place where a key may have started is kept in mind, one for each flow collection that is
open and one for the block structure around them.  When a colon follows on the same line, the mark
of a key is put in at that place.
-/

namespace CriteriaSearch.Yaml

/-- A token of a YAML text. -/
inductive Token where
  | directive (directive : Directive)
  | documentStart
  | documentEnd
  | blockSequence
  | blockMapping
  /-- The end of a block collection. -/
  | blockEnd
  | openSequence
  | closeSequence
  | openMapping
  | closeMapping
  /-- The dash in front of an item. -/
  | entry
  /-- The comma between items. -/
  | comma
  | key
  | value
  | anchor (name : String)
  | reference (name : String)
  | tag (tag : TagName)
  | scalar (style : ScalarStyle) (text : String)
  deriving DecidableEq

/-! ## What stands in a text -/

/-- A mark of one character.  Inside a flow collection question marks and colons need no white space
behind them. -/
def mark? (inFlow : Bool) (c : Char) (rest : List Spot) : Option Token :=
  match c with
  | '[' => some .openSequence
  | ']' => some .closeSequence
  | '{' => some .openMapping
  | '}' => some .closeMapping
  | ',' => some .comma
  | '-' => if endsWord rest then some .entry else none
  | '?' => if inFlow || endsWord rest then some .key else none
  | ':' => if inFlow || endsWord rest then some .value else none
  | _ => none

/-- A reference, or what may stand in front of a node. -/
def property? (inFlow : Bool) (c : Char) (rest : List Spot) : Option (Token × List Spot) :=
  if c = '*' then (anchorName? rest).map fun (name, after) => (.reference name, after)
  else if c = '&' then (anchorName? rest).map fun (name, after) => (.anchor name, after)
  else if c = '!' then
    ((tagName? rest).filter fun (_, after) =>
      endsWord after || (inFlow && after.head?.any (·.char = ','))).map
        fun (tag, after) => (.tag tag, after)
  else none

theorem property?_suffix {inFlow : Bool} {c : Char} {rest after : List Spot} {token : Token}
    (read : property? inFlow c rest = some (token, after)) : after <:+ rest := by
  unfold property? at read
  split at read
  · rcases Option.map_eq_some_iff.1 read with ⟨⟨name, behind⟩, named, same⟩
    cases same
    exact anchorName?_suffix named
  split at read
  · rcases Option.map_eq_some_iff.1 read with ⟨⟨name, behind⟩, named, same⟩
    cases same
    exact anchorName?_suffix named
  split at read
  · rcases Option.map_eq_some_iff.1 read with ⟨⟨tag, behind⟩, tagged, same⟩
    cases same
    exact tagName?_suffix (Option.filter_eq_some_iff.1 tagged).1
  · cases read

/-- A scalar inside a collection that is indented by `indent` columns, and whether the reader is
left at the start of a line behind it. -/
def scalar? (inFlow : Bool) (indent : Int) (spot : Spot) (rest : List Spot) :
    Option (Token × Bool × List Spot) :=
  if spot.char = '\'' then
    (singleQuoted [] .none rest).map fun (text, after) => (.scalar .quoted text, false, after)
  else if spot.char = '"' then
    (doubleQuoted [] .none none rest).map fun (text, after) => (.scalar .quoted text, false, after)
  else if spot.char = '|' && !inFlow then
    (blockScalar false indent rest).map fun (text, after) => (.scalar .literal text, true, after)
  else if spot.char = '>' && !inFlow then
    (blockScalar true indent rest).map fun (text, after) => (.scalar .folded text, true, after)
  else if startsPlain inFlow spot rest then
    (plainScalar inFlow (indent + 1) [spot.char] .none rest).map
      fun (text, atLineStart, after) => (.scalar .plain text, atLineStart, after)
  else none

theorem scalar?_suffix {inFlow atLineStart : Bool} {indent : Int} {spot : Spot}
    {rest after : List Spot} {token : Token}
    (read : scalar? inFlow indent spot rest = some (token, atLineStart, after)) :
    after <:+ rest := by
  unfold scalar? at read
  split at read
  · rcases Option.map_eq_some_iff.1 read with ⟨⟨text, behind⟩, quoted, same⟩
    cases same
    exact singleQuoted_suffix quoted
  split at read
  · rcases Option.map_eq_some_iff.1 read with ⟨⟨text, behind⟩, quoted, same⟩
    cases same
    exact doubleQuoted_suffix quoted
  split at read
  · rcases Option.map_eq_some_iff.1 read with ⟨⟨text, behind⟩, literal, same⟩
    cases same
    exact blockScalar_suffix literal
  split at read
  · rcases Option.map_eq_some_iff.1 read with ⟨⟨text, behind⟩, folded, same⟩
    cases same
    exact blockScalar_suffix folded
  split at read
  · rcases Option.map_eq_some_iff.1 read with ⟨⟨text, left, behind⟩, plain, same⟩
    cases same
    exact plainScalar_suffix plain
  · cases read

/-- The token that is written from `spot` on, whether the reader is left at the start of a line
behind it, and the characters behind it. -/
def Token.read? (inFlow : Bool) (indent : Int) (spot : Spot) (rest : List Spot) :
    Option (Token × Bool × List Spot) :=
  if spot.column = 0 && spot.char = '%' then
    (directive? rest).map fun (content, after) => (.directive content, false, after)
  else if isBoundary '-' (spot :: rest) then some (.documentStart, false, rest.drop 2)
  else if isBoundary '.' (spot :: rest) then some (.documentEnd, false, rest.drop 2)
  else match mark? inFlow spot.char rest with
    | some token => some (token, false, rest)
    | none =>
      ((property? inFlow spot.char rest).map fun (token, after) => (token, false, after)).or
        (scalar? inFlow indent spot rest)

theorem Token.read?_suffix {inFlow atLineStart : Bool} {indent : Int} {spot : Spot}
    {rest after : List Spot} {token : Token}
    (read : Token.read? inFlow indent spot rest = some (token, atLineStart, after)) :
    after <:+ rest := by
  unfold Token.read? at read
  split at read
  · rcases Option.map_eq_some_iff.1 read with ⟨⟨content, behind⟩, directed, same⟩
    cases same
    exact directive?_suffix directed
  split at read
  · cases read
    exact List.drop_suffix 2 rest
  split at read
  · cases read
    exact List.drop_suffix 2 rest
  split at read
  · cases read
    exact List.suffix_refl rest
  · rcases Option.or_eq_some_iff.1 read with property | ⟨-, scalar⟩
    · rcases Option.map_eq_some_iff.1 property with ⟨⟨token, behind⟩, written, same⟩
      cases same
      exact property?_suffix written
    · exact scalar?_suffix scalar

/-! ## What indentation and keys add -/

/-- A place where a key may have started. -/
structure KeyStart where
  spot : Spot
  /-- How many tokens are in front of it. -/
  position : Nat
  /-- Whether nothing but a key may start there. -/
  required : Bool

/-- Whether a colon makes a key of what starts at a place: it has to stand on the same line, and not
too far away. -/
def KeyStart.reaches (start : KeyStart) (colon : Spot) : Bool :=
  start.spot.line = colon.line && colon.offset ≤ start.spot.offset + 1024

/-- What is known about a text in front of the place that the reader has come to. -/
structure Scanner where
  tokens : Array Token := #[]
  /-- The columns of the block collections that are open, innermost first. -/
  columns : List Nat := []
  /-- Where a key may have started in the innermost collection. -/
  keyStart : Option KeyStart := none
  /-- The same for the collections around each of the flow collections that are open. -/
  outerKeyStarts : List (Option KeyStart) := []
  /-- Whether a key may start here. -/
  mayStartKey : Bool := true

namespace Scanner

/-- Whether a flow collection is open. -/
def inFlow (s : Scanner) : Bool :=
  !s.outerKeyStarts.isEmpty

/-- The column of the innermost block collection, which is in front of the first column if none is
open. -/
def indent (s : Scanner) : Int :=
  match s.columns with
  | [] => -1
  | column :: _ => column

/-- A token is added.  `mayStartKey` says whether a key may start behind it. -/
def emit (token : Token) (mayStartKey : Bool) (s : Scanner) : Scanner :=
  { s with tokens := s.tokens.push token, mayStartKey }

/-- The block collections end that are indented further than a column. -/
def closeBlocks (column : Int) (s : Scanner) : Scanner :=
  if s.inFlow then s
  else
    let closed := s.columns.takeWhile fun (c : Nat) => column < c
    { s with
      tokens := s.tokens ++ Array.replicate closed.length .blockEnd
      columns := s.columns.drop closed.length }

/-- A block collection starts in a column, in front of the token at a position, unless a collection
that stands as far to the right is open already. -/
def openBlock (column position : Nat) (opening : Token) (s : Scanner) : Scanner :=
  if s.inFlow || column ≤ s.indent then s
  else
    { s with
      tokens := s.tokens.insertIdxIfInBounds position opening
      columns := column :: s.columns }

/-- What has started is no key, which is an error where only a key may start. -/
def dropKey? (s : Scanner) : Option Scanner :=
  if s.keyStart.any KeyStart.required then none else some { s with keyStart := none }

/-- A key may have started here. -/
def saveKey? (spot : Spot) (s : Scanner) : Option Scanner :=
  if s.mayStartKey then do
    let s ← s.dropKey?
    let required := !s.inFlow && s.indent = spot.column
    some { s with keyStart := some { spot, position := s.tokens.size, required } }
  else some s

/-- A mark at the start of an entry of a block collection, a dash or a question mark.  In block
structure it has to stand where a key may start, and opens the collection if it is the first one. -/
def enter? (spot : Spot) (opening token : Token) (mayStartKey : Bool) (s : Scanner) :
    Option Scanner :=
  if !s.inFlow && !s.mayStartKey then none
  else do
    let s ← (s.openBlock spot.column s.tokens.size opening).dropKey?
    some (s.emit token mayStartKey)

/-- A colon that no key on the same line is in front of. -/
def bareValue? (spot : Spot) (s : Scanner) : Option Scanner :=
  if !s.inFlow && !s.mayStartKey then none
  else some ((s.openBlock spot.column s.tokens.size .blockMapping).emit .value !s.inFlow)

/-- A colon in front of a value. -/
def value? (spot : Spot) (s : Scanner) : Option Scanner :=
  match s.keyStart with
  | none => s.bareValue? spot
  | some start =>
    if start.reaches spot then
      let s := { s with
        tokens := s.tokens.insertIdxIfInBounds start.position .key
        keyStart := none }
      some ((s.openBlock start.spot.column start.position .blockMapping).emit .value false)
    else if start.required then none
    else { s with keyStart := none }.bareValue? spot

/-- The mark in front of a flow collection. -/
def openFlow? (spot : Spot) (token : Token) (s : Scanner) : Option Scanner := do
  let s := (← s.saveKey? spot).emit token true
  some { s with keyStart := none, outerKeyStarts := s.keyStart :: s.outerKeyStarts }

/-- The mark behind a flow collection. -/
def closeFlow? (token : Token) (s : Scanner) : Option Scanner := do
  let s := (← s.dropKey?).emit token false
  match s.outerKeyStarts with
  | [] => some s
  | keyStart :: outerKeyStarts => some { s with keyStart, outerKeyStarts }

/-- The token that starts at a place is added, with what follows from where it stands.  What
indentation says is not written, so that no token says it. -/
def take? (spot : Spot) (token : Token) (atLineStart : Bool) (s : Scanner) : Option Scanner := do
  match token with
  | .directive _ | .documentStart | .documentEnd =>
    some ((← (s.closeBlocks (-1)).dropKey?).emit token false)
  | .openSequence | .openMapping => s.openFlow? spot token
  | .closeSequence | .closeMapping => s.closeFlow? token
  | .comma | .scalar .literal _ | .scalar .folded _ => some ((← s.dropKey?).emit token true)
  | .entry => s.enter? spot .blockSequence token true
  | .key => s.enter? spot .blockMapping token !s.inFlow
  | .value => s.value? spot
  | .anchor _ | .reference _ | .tag _ | .scalar _ _ =>
    some ((← s.saveKey? spot).emit token atLineStart)
  | .blockSequence | .blockMapping | .blockEnd => none

/-- Reads the rest of a text. -/
def run? (s : Scanner) (spots : List Spot) : Option (Array Token) :=
  match ended : gap s.inFlow s.mayStartKey false spots with
  | (_, []) => (s.closeBlocks (-1)).dropKey?.map Scanner.tokens
  | (mayStartKey, spot :: rest) =>
    let here := { s with mayStartKey }.closeBlocks spot.column
    match _ : Token.read? here.inFlow here.indent spot rest with
    | none => none
    | some (token, atLineStart, after) =>
      match here.take? spot token atLineStart with
      | none => none
      | some next => run? next after
termination_by spots.length
decreasing_by
  have start := (gap_suffix s.inFlow s.mayStartKey false spots).length_le
  have behind := (Token.read?_suffix ‹_›).length_le
  rw [ended] at start
  simp only [List.length_cons] at start
  omega

end Scanner

/-- The tokens of a text. -/
def tokens? (text : String) : Option (List Token) := do
  let tokens ← Scanner.run? {} (← spots? text)
  some tokens.toList

end CriteriaSearch.Yaml
