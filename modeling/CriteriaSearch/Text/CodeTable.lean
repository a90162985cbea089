import CriteriaSearch.Text.Digits
import CriteriaSearch.Text.Pieces

/-!
# Tables of code points

What a standard says about characters comes as a table of ranges of code points.  A table is written
as a text: entries between white space, each with the first code point of a range, a hyphen and the
last one if there is more than one, and what is said about them.  Numbers are hexadecimal.
-/

namespace CriteriaSearch.Text

/-- What a table says about the code points from `first` to `last`. -/
structure CodeRange (α : Type) where
  first : Nat
  last : Nat
  value : α

/-- Ranges in ascending order. -/
abbrev CodeTable (α : Type) := Array (CodeRange α)

namespace CodeTable

variable {α : Type}

/-- The range that a code point is in, among those from position `low` up to position `high`. -/
def search? (table : CodeTable α) (code : Nat) (low high : Nat) : Option (CodeRange α) :=
  if low < high then
    let middle := (low + high) / 2
    match table[middle]? with
    | none => none
    | some range =>
      if code < range.first then table.search? code low middle
      else if range.last < code then table.search? code (middle + 1) high
      else some range
  else none
termination_by high - low

/-- The range that a character is in. -/
def rangeOf? (table : CodeTable α) (c : Char) : Option (CodeRange α) :=
  table.search? c.toNat 0 table.size

/-- What the table says about a character. -/
def get? (table : CodeTable α) (c : Char) : Option α :=
  (table.rangeOf? c).map CodeRange.value

/-- The characters of a table are those that are in one of its ranges. -/
def contains (table : CodeTable α) (c : Char) : Bool :=
  (table.rangeOf? c).isSome

/-- A number of a table. -/
def number (digits : List Char) : Nat :=
  (numeral? 16 digits).getD 0

/-- Characters of a table, written as numbers with points between them. -/
def characters (text : List Char) : List Char :=
  if text.isEmpty then [] else (pieces '.' text).map fun digits => Char.ofNat (number digits)

/-- An entry of a table. -/
def entry (value : List Char → α) (text : List Char) : CodeRange α :=
  let (numbers, said) := text.span fun c => (hexDigit? c).isSome || c = '-'
  let bounds := (pieces '-' numbers).map number
  { first := bounds.headD 0, last := bounds.getLastD 0, value := value said }

/-- The table that a text writes, where `value` reads what is said about a range. -/
def ofText (value : List Char → α) (text : String) : CodeTable α :=
  let words := pieces ' ' (text.toList.map fun c => if c = '\n' then ' ' else c)
  ((words.filter (!·.isEmpty)).map (entry value)).toArray

end CodeTable

end CriteriaSearch.Text
