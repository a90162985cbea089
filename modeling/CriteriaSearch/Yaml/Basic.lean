import CriteriaSearch.Number.Decimal

/-!
# YAML values

A YAML document is made of scalars, sequences and mappings.  A scalar is a text, and what the text
stands for is decided by whoever asks for it: the same plain scalar can be asked for as a text, a
number or a truth value.  A quoted scalar is a text and nothing else.

A node may carry an anchor and be referred to from other places, even from inside itself.  A
reference stays a reference in the tree, and is followed by whoever asks what stands at its place.
-/

namespace CriteriaSearch

namespace Yaml

/-- How a scalar is written. -/
inductive ScalarStyle where
  | plain
  | quoted
  /-- A block that keeps its lines. -/
  | literal
  /-- A block that folds its lines. -/
  | folded
  deriving DecidableEq, Inhabited

end Yaml

/-- A value of a YAML document. -/
inductive Yaml where
  | scalar (style : Yaml.ScalarStyle) (tag : Option String) (text : String)
  | sequence (items : List Yaml)
  | mapping (entries : List (Yaml × Yaml))
  /-- The node that carries an anchor, by the number of the anchor. -/
  | reference (anchor : Nat)
  deriving Inhabited

namespace Yaml

/-- The value where a document writes none. -/
def absent : Yaml :=
  .scalar .plain none ""

/-- A document: its value, and the nodes that its anchors stand for. -/
structure Document where
  root : Yaml
  anchored : List (Nat × Yaml) := []
  deriving Inhabited

/-- The tag of a standard kind of scalar. -/
def standardTag (kind : String) : String :=
  "tag:yaml.org,2002:" ++ kind

namespace Document

/-- What stands at a place of the document, references followed. -/
def follow? (document : Document) : Yaml → Option Yaml
  | .reference anchor => document.anchored.lookup anchor
  | value => some value

/-- A scalar as a text, however it is written. -/
def text? (document : Document) (value : Yaml) : Option String := do
  match ← document.follow? value with
  | .scalar _ _ text => some text
  | _ => none

/-- The characters of a scalar that may be read as something else than a text: a plain one, or a
block of lines with the tag of its kind. -/
def word? (kind : String) (document : Document) (value : Yaml) : Option (List Char) := do
  match ← document.follow? value with
  | .scalar .plain _ text => some text.toList
  | .scalar .literal tag text => if tag = some (standardTag kind) then some text.toList else none
  | _ => none

/-- Whether a text is a word for no value. -/
def isNullWord (text : String) : Bool :=
  ["null", "Null", "NULL", "~"].contains text

/-- A scalar as a text that may be missing.  Only plain scalars stand for no value, and with a tag
only those that are tagged as doing so. -/
def nullableText? (document : Document) (value : Yaml) : Option (Option String) := do
  match ← document.follow? value with
  | .scalar .plain (some tag) text =>
    if tag = standardTag "null" then if isNullWord text then some none else none
    else some (some text)
  | .scalar .plain none text => some (if text.isEmpty || isNullWord text then none else some text)
  | .scalar _ _ text => some (some text)
  | _ => none

/-- A scalar as a truth value. -/
def bool? (document : Document) (value : Yaml) : Option Bool := do
  let text := String.ofList (← document.word? "bool" value)
  if ["true", "True", "TRUE"].contains text then some true
  else if ["false", "False", "FALSE"].contains text then some false
  else none

/-- An unsigned integer in base sixteen, eight or two after a mark for the base, or in base ten
without needless zeros in front. -/
def magnitude? : List Char → Option Nat
  | '0' :: 'x' :: digits => Text.numeral? 16 digits
  | '0' :: 'o' :: digits => Text.numeral? 8 digits
  | '0' :: 'b' :: digits => Text.numeral? 2 digits
  | '0' :: _ :: _ => none
  | digits => Text.numeral? 10 digits

/-- A scalar as an unsigned 64-bit integer. -/
def unsigned? (document : Document) (value : Yaml) : Option Nat := do
  let n ← match ← document.word? "int" value with
    | '+' :: rest => magnitude? rest
    | rest => magnitude? rest
  if n < UInt64.size then some n else none

/-- A scalar as a signed 64-bit integer. -/
def signed? (document : Document) (value : Yaml) : Option Int := do
  let n : Int ← match ← document.word? "int" value with
    | '-' :: rest => (magnitude? rest).map fun n => -(n : Int)
    | '+' :: rest => (magnitude? rest).map Int.ofNat
    | rest => (magnitude? rest).map Int.ofNat
  if -9223372036854775808 ≤ n && n < 9223372036854775808 then some n else none

/-- A decimal inside the range of the doubles, or a name for one of the values beyond them. -/
def real? (document : Document) (value : Yaml) : Option Binary64.Extended := do
  let cs ← document.word? "float" value
  if [".nan", ".NaN", ".NAN"].contains (String.ofList cs) then some .notANumber
  else
    let (negative, rest) := match cs with
      | '-' :: rest => (true, rest)
      | '+' :: rest => (false, rest)
      | rest => (false, rest)
    if [".inf", ".Inf", ".INF"].contains (String.ofList rest) then some (.infinite negative)
    else
      let decimal ← Decimal.ofText? rest
      (decimal.nearest? negative).map .finite

/-- A sequence whose elements are all of one kind; where no value is written it is empty. -/
def list? {α : Type} (element? : Yaml → Option α) (document : Document) (value : Yaml) :
    Option (List α) := do
  match ← document.follow? value with
  | .sequence items => items.mapM element?
  | .scalar .plain _ "" => some []
  | _ => none

/-- The entries of a mapping, put into a record one after the other.  `seen` lists the fields that
have been given already; entries that are no field of the record are passed over. -/
def recordEntries? {σ : Type} (document : Document)
    (fields : List (String × (Yaml → σ → Option σ))) :
    List String → σ → List (Yaml × Yaml) → Option σ
  | _, record, [] => some record
  | seen, record, (key, value) :: rest => do
    let name ← document.text? key
    match fields.lookup name with
    | none => document.recordEntries? fields seen record rest
    | some set =>
      if seen.contains name then none
      else document.recordEntries? fields (name :: seen) (← set value record) rest

/-- A mapping as a record.  Fields that are not given keep their value in `start`, and where no
value is written all of them do. -/
def record? {σ : Type} (document : Document) (fields : List (String × (Yaml → σ → Option σ)))
    (start : σ) (value : Yaml) : Option σ := do
  match ← document.follow? value with
  | .mapping entries => document.recordEntries? fields [] start entries
  | .scalar .plain _ "" => some start
  | _ => none

end Document

end Yaml

end CriteriaSearch
