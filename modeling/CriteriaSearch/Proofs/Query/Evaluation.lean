import CriteriaSearch.Query.Basic

namespace CriteriaSearch

/-!
# What a query says about a document

A document settles every atomic clause one way or the other.  A query combines
atomic clauses, so such a valuation settles the query as well.  This module
gives the reading of the engine: everything in `must` holds, nothing in
`must_not` holds, and enough of `should` holds.  How much is enough is either
written in the combination or follows from which of its buckets are empty.

The reading depends on a combination only through the truth values of its
clauses, bucket by bucket.  It is therefore stated once, for combinations of
truth values, and a query is read by replacing its clauses by theirs.
-/

/-- A clause that tests one field, with all the parameters of the test. -/
inductive Atom where
  | terms (field : String) (values : List Json)
  | range (clause : RangeClause)
  | phrase (field text : String)
  | start (field text : String)
  | pattern (field text : String)
  | presence (field : String)

/-- Which atomic clauses hold. -/
abbrev Valuation := Atom → Bool

namespace Buckets

variable {α β : Type}

def map (f : α → β) (buckets : Buckets α) : Buckets β where
  must := buckets.must.map f
  should := buckets.should.map f
  mustNot := buckets.mustNot.map f
  minimumShouldMatch := buckets.minimumShouldMatch

/-- How many clauses of `should` have to hold.  If nothing is written, it is
one where `should` has clauses and `must` has none, and otherwise zero. -/
def requiredMatches (buckets : Buckets α) : Nat :=
  match buckets.minimumShouldMatch with
  | some text => Nat.ofDigitChars 10 text.toList 0
  | none => if buckets.should.isEmpty || !buckets.must.isEmpty then 0 else 1

/-- Whether a combination of truth values holds. -/
def verdict (buckets : Buckets Bool) : Bool :=
  buckets.must.all id && !buckets.mustNot.any id &&
    decide (buckets.requiredMatches ≤ buckets.should.count true)

/-- A written number of matches is the number that was asked for. -/
theorem requiredMatches_of_written {buckets : Buckets α} {n : Nat}
    (written : buckets.minimumShouldMatch = some (String.ofList (Nat.toDigits 10 n))) :
    buckets.requiredMatches = n := by
  simp only [requiredMatches, written, String.toList_ofList]
  exact Nat.ofDigitChars_ten_toDigits

private theorem one_le_count_true_iff (values : List Bool) :
    1 ≤ values.count true ↔ ∃ value ∈ values, value = true := by
  rw [Nat.succ_le_iff, List.count_pos_iff]
  constructor
  · intro member
    exact ⟨true, member, rfl⟩
  · rintro ⟨value, member, rfl⟩
    exact member

/-- A combination that asks for one match holds when its three buckets agree
to it. -/
theorem verdict_iff_of_minimum_one {buckets : Buckets Bool}
    (written : buckets.minimumShouldMatch = some "1") :
    buckets.verdict = true ↔
      (∀ value ∈ buckets.must, value = true) ∧ (∀ value ∈ buckets.mustNot, value = false) ∧
        ∃ value ∈ buckets.should, value = true := by
  have required : buckets.requiredMatches = 1 := requiredMatches_of_written written
  unfold verdict
  rw [required]
  simp only [Bool.and_eq_true, decide_eq_true_eq, one_le_count_true_iff, and_assoc]
  simp

/-- Without a written number, some clause of `should` has to hold if there
are any and `must` has none. -/
theorem verdict_iff_of_minimum_none {buckets : Buckets Bool}
    (unwritten : buckets.minimumShouldMatch = none) :
    buckets.verdict = true ↔
      (∀ value ∈ buckets.must, value = true) ∧ (∀ value ∈ buckets.mustNot, value = false) ∧
        (buckets.must = [] → buckets.should ≠ [] → ∃ value ∈ buckets.should, value = true) := by
  have enough : buckets.requiredMatches ≤ buckets.should.count true ↔
      (buckets.must = [] → buckets.should ≠ [] → ∃ value ∈ buckets.should, value = true) := by
    simp only [requiredMatches, unwritten]
    cases buckets.should with
    | nil => simp
    | cons first rest =>
        cases buckets.must with
        | nil => simp
        | cons _ _ => simp
  unfold verdict
  simp only [Bool.and_eq_true, decide_eq_true_eq, enough, and_assoc]
  simp

end Buckets

namespace Query

mutual

/-- Whether a query holds under a valuation of the atomic clauses.  Scoring
does not change what a query matches. -/
def holds (valuation : Valuation) : Query → Bool
  | .bool ⟨must, should, mustNot, minimum⟩ =>
    Buckets.verdict
      ⟨verdicts valuation must, verdicts valuation should, verdicts valuation mustNot, minimum⟩
  | .terms field values => valuation (.terms field values)
  | .range clause => valuation (.range clause)
  | .phrase field text => valuation (.phrase field text)
  | .start field text => valuation (.start field text)
  | .pattern field text => valuation (.pattern field text)
  | .presence field => valuation (.presence field)
  | .scored query _ => query.holds valuation

def verdicts (valuation : Valuation) : List Query → List Bool
  | [] => []
  | query :: rest => query.holds valuation :: verdicts valuation rest

end

theorem verdicts_eq_map (valuation : Valuation) (queries : List Query) :
    verdicts valuation queries = queries.map (holds valuation) := by
  induction queries with
  | nil => rfl
  | cons query rest ih => rw [verdicts, ih, List.map_cons]

theorem holds_bool (valuation : Valuation) (query : BoolQuery) :
    (Query.bool query).holds valuation = (query.map (holds valuation)).verdict := by
  rcases query with ⟨must, should, mustNot, minimum⟩
  simp only [holds, verdicts_eq_map, Buckets.map]

theorem holds_bool_without_should (valuation : Valuation) (must mustNot : List Query) :
    (Query.bool { must, mustNot }).holds valuation =
      (must.all (holds valuation) && !mustNot.any (holds valuation)) := by
  simp [holds_bool, Buckets.verdict, Buckets.requiredMatches, Buckets.map]

end Query

end CriteriaSearch
