import CriteriaSearch.Condition.Basic
import CriteriaSearch.Proofs.Query.Evaluation
import CriteriaSearch.Text.Blank
import CriteriaSearch.Text.Pieces

namespace CriteriaSearch

/-!
# What a condition says about a document

A condition has a meaning of its own, before any query is made of it.  Under a
valuation of the atomic clauses, a leaf gives one verdict for each field that
it tests, and a group of conditions gives one verdict for the whole group.
Fields with nothing to test and groups without conditions give none.

The verdicts of a condition say nothing by themselves: its logic decides
whether all of them are required, none of them may hold, or one of them is
enough.  A group requires its `must` verdicts and excludes its `must_not`
verdicts.  Its `should` verdicts matter only where no `must` verdict stands
beside them; then one of them has to hold.
-/

/-- The words that a phrase value asks about, each with its sign in front.  A
value with plus signs asks about its words one by one, without the white space
around them; any other value is one word, unless it is blank. -/
def askedWords (phrase : List Char) : Option (List (List Char)) :=
  if '+' ∈ phrase then
    some (((Text.pieces '+' phrase).map Text.trim).filter fun word => !word.isEmpty)
  else if Text.isBlank phrase then none
  else some [phrase]

/-- Whether a word is as its sign wants it: behind a minus, the phrase must
not be there. -/
def wordHolds (valuation : Valuation) (field : String) : List Char → Bool
  | '-' :: excluded => !valuation (.phrase field (String.ofList excluded))
  | word => valuation (.phrase field (String.ofList word))

/-- Whether one of the phrase values of a field is met, word by word.  Where
no value asks about anything there is nothing to meet. -/
def phrasesHold (valuation : Valuation) (field : String) (phrases : List String) : Bool :=
  let asked := phrases.filterMap fun phrase => askedWords phrase.toList
  asked.isEmpty || asked.any fun words => words.all (wordHolds valuation field)

/-- The verdict on a range entry, if the entry sets a bound. -/
def rangeVerdict (valuation : Valuation) (field : String) : RangeEntry → Option Bool
  | .unset | .ignored => none
  | .bounds ⟨none, none, _, _⟩ => none
  | .bounds ⟨lower, upper, includeLower, includeUpper⟩ =>
    some (valuation (.range {
      field
      lower := lower.map Bound.value
      upper := upper.map Bound.value
      includeLower
      includeUpper
      format := none
      timeZone := none }))

/-- The verdicts of a leaf: one for each field with something to test. -/
def Leaf.verdicts (valuation : Valuation) : Leaf → List Bool
  | .terms fields =>
    (fields.entries.filter fun entry => entry.2 ≠ []).map fun entry =>
      valuation (.terms entry.1 (entry.2.map Scalar.toJson))
  | .phrase fields =>
    (fields.entries.filter fun entry => entry.2 ≠ []).map fun entry =>
      phrasesHold valuation entry.1 entry.2
  | .range fields => fields.entries.filterMap fun entry => rangeVerdict valuation entry.1 entry.2
  | .start fields =>
    (fields.entries.filter fun entry => entry.2 ≠ "").map fun entry =>
      valuation (.start entry.1 entry.2)
  | .pattern fields =>
    (fields.entries.filter fun entry => entry.2 ≠ "").map fun entry =>
      valuation (.pattern entry.1 entry.2)
  | .presence fields =>
    (fields.filter fun field => field ≠ "").map fun field => valuation (.presence field)

namespace Condition

/-- Whether a group holds, by the verdicts of its conditions. -/
def groupHolds (must should mustNot : List Bool) : Bool :=
  must.all id && !mustNot.any id && (!must.isEmpty || should.isEmpty || should.any id)

mutual

def verdicts (valuation : Valuation) : Condition → List Bool
  | .leaf _ test => test.verdicts valuation
  | .group _ [] => []
  | .group _ (child :: rest) =>
    [groupHolds (pooled valuation .must (child :: rest))
      (pooled valuation .should (child :: rest)) (pooled valuation .mustNot (child :: rest))]

/-- The verdicts of those conditions that have a given logic. -/
def pooled (valuation : Valuation) (logic : Logic) : List Condition → List Bool
  | [] => []
  | condition :: rest =>
    if condition.logic = logic then condition.verdicts valuation ++ pooled valuation logic rest
    else pooled valuation logic rest

end

theorem mem_pooled {valuation : Valuation} {logic : Logic} {conditions : List Condition}
    {value : Bool} :
    value ∈ pooled valuation logic conditions ↔
      ∃ condition ∈ conditions, condition.logic = logic ∧ value ∈ condition.verdicts valuation := by
  induction conditions with
  | nil => simp [pooled]
  | cons condition rest ih =>
      rw [pooled]
      by_cases own : condition.logic = logic
      · rw [if_pos own, List.mem_append, ih]
        simp [own]
      · rw [if_neg own, ih]
        simp [own]

end Condition

end CriteriaSearch
