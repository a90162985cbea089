import CriteriaSearch.Condition.Basic
import CriteriaSearch.Query.Basic
import CriteriaSearch.Text.Blank
import CriteriaSearch.Text.Pieces

/-!
# Compiling conditions to queries

Conditions are added to a combination one after the other.  Each of them appends clauses to the
bucket that its logic names: a leaf one clause for each field with something to test, a group of
conditions one combination of its own, and a group without conditions nothing.

A list of conditions is compiled by adding it to a combination with nothing in it but the clause of
a window of dates, if there is one.  If a condition of the list has the logic `should`, at least one
clause of the `should` bucket has to hold; conditions inside groups do not count for this.
-/

namespace CriteriaSearch

/-- A half-open window of dates on a field.  It takes effect when no part of it is empty. -/
structure DateWindow where
  field : String := ""
  start : String := ""
  stop : String := ""
  deriving DecidableEq, Inhabited

/-- Whether the window takes effect. -/
def DateWindow.isSet (window : DateWindow) : Bool :=
  window.field ≠ "" && window.start ≠ "" && window.stop ≠ ""

/-- The date formats that a compiler accepts unless it is told otherwise. -/
def defaultDateFormats : List String :=
  ["yyyy-MM-dd HH:mm:ss", "yyyy-MM-dd", "epoch_millis"]

/-- What compilation depends on besides the conditions. -/
structure Compiler where
  dateFormats : List String := defaultDateFormats
  deriving DecidableEq, Inhabited

/-- The compiler with the given formats; an empty list keeps the formats that it has. -/
def Compiler.withDateFormats (compiler : Compiler) (formats : List String) : Compiler :=
  if formats.isEmpty then compiler else { dateFormats := formats }

/-- A word of a phrase: a leading minus asks for its absence. -/
def phraseWord (field : String) : List Char → Logic × Query
  | '-' :: rest => (.mustNot, .phrase field (String.ofList rest))
  | word => (.must, .phrase field (String.ofList word))

/-- The clauses of words in the buckets that their signs ask for. -/
def phraseWords (field : String) (words : List (List Char)) : BoolQuery :=
  ({} : BoolQuery).pushAll (words.map (phraseWord field))

/-- The clause of one phrase value.  A value with plus signs asks for all its words at once; a
value without them is taken as it stands, and a blank one asks for nothing. -/
def phraseClause (field : String) (phrase : List Char) : Option Query :=
  match Text.pieces '+' phrase with
  | [] => none
  | [_] =>
    if Text.isBlank phrase then none
    else match phraseWord field phrase with
      | (.mustNot, clause) => some (.bool { mustNot := [clause] })
      | (_, clause) => some clause
  | words =>
    let kept := (words.map Text.trim).filter fun word => !word.isEmpty
    some (.bool (phraseWords field kept))

/-- The alternatives that the phrase values of one field offer. -/
def phraseAlternatives (field : String) (phrases : List String) : BoolQuery where
  should := phrases.filterMap fun phrase => phraseClause field phrase.toList

namespace Leaf

/-- The clause of a range entry. -/
def rangeClause (field : String) : RangeEntry → Option Query
  | .unset | .ignored => none
  | .bounds bounds =>
    if bounds.isUnbounded then none
    else some (.range {
      field
      lower := bounds.lower.map Bound.value
      upper := bounds.upper.map Bound.value
      includeLower := bounds.includeLower
      includeUpper := bounds.includeUpper })

/-- The clauses of a leaf: one for each field with something to test. -/
def clauses : Leaf → List Query
  | .terms fields =>
    fields.entries.filterMap fun (field, values) =>
      if values.isEmpty then none else some (.terms field (values.map Scalar.toJson))
  | .range fields => fields.entries.filterMap fun (field, entry) => rangeClause field entry
  | .phrase fields =>
    fields.entries.filterMap fun (field, phrases) =>
      if phrases.isEmpty then none else some (.bool (phraseAlternatives field phrases))
  | .start fields =>
    fields.entries.filterMap fun (field, text) =>
      if text = "" then none else some (.start field text)
  | .pattern fields =>
    fields.entries.filterMap fun (field, text) =>
      if text = "" then none else some (.pattern field text)
  | .presence fields =>
    fields.filterMap fun field => if field = "" then none else some (.presence field)

end Leaf

namespace Condition

mutual

/-- Puts what a condition asks for into the combination around it. -/
def addTo (query : BoolQuery) : Condition → BoolQuery
  | .leaf logic test => query.pushAll (test.clauses.map (logic, ·))
  | .group _ [] => query
  | .group logic (child :: rest) => query.push logic (.bool (addAll {} (child :: rest)))

/-- Puts what several conditions ask for into a combination, one after the other. -/
def addAll (query : BoolQuery) : List Condition → BoolQuery
  | [] => query
  | condition :: rest => addAll (condition.addTo query) rest

end

end Condition

namespace Compiler

/-- The clause of a window of dates in a time zone. -/
def dateClause (compiler : Compiler) (window : DateWindow) (zone : String) : Query :=
  .range {
    field := window.field
    lower := some (.str window.start)
    upper := some (.str window.stop)
    format := some (String.intercalate "||" compiler.dateFormats)
    timeZone := some zone }

/-- The clauses of a window of dates: one, if the window takes effect. -/
def dateClauses (compiler : Compiler) (window : DateWindow) (zone : String) : List Query :=
  if window.isSet then [compiler.dateClause window zone] else []

/-- The zone in which dates are meant.  The given one is taken as it is; the local one stands in
where none, or an empty one, is given. -/
def effectiveZone (zone : Option String) (localZone : String) : String :=
  match zone with
  | some name => if name = "" then localZone else name
  | none => localZone

/-- The query of a list of conditions within a window of dates. -/
def compile (compiler : Compiler) (conditions : List Condition) (window : DateWindow)
    (zone : Option String) (localZone : String) : BoolQuery :=
  let dates := compiler.dateClauses window (effectiveZone zone localZone)
  let query := Condition.addAll (({} : BoolQuery).pushAll (dates.map (.must, ·))) conditions
  if conditions.any (·.logic = .should) then query.requireMatches 1 else query

end Compiler

end CriteriaSearch
