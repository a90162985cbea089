import CriteriaSearch.Query.Compilation

namespace CriteriaSearch

/-!
# The buckets of a compiled query

A query is compiled by pushing clauses into one combination that is handed
along the list of conditions.  Whatever is in the combination already, a
condition appends its own clauses to the one bucket that its logic names and
leaves everything else alone.  So a bucket of the result holds the clauses of
exactly those conditions that name it, in their order.  Only the `must` bucket
of a whole query holds something else as well: the clause of a window of dates
was pushed before, and stands in front.
-/

namespace Buckets

variable {α : Type}

theorem bucket_push (buckets : Buckets α) (logic other : Logic) (clause : α) :
    (buckets.push logic clause).bucket other =
      buckets.bucket other ++ if logic = other then [clause] else [] := by
  cases logic <;> cases other <;> simp [push, bucket]

@[simp] theorem minimumShouldMatch_push (buckets : Buckets α) (logic : Logic) (clause : α) :
    (buckets.push logic clause).minimumShouldMatch = buckets.minimumShouldMatch := by
  cases logic <;> rfl

@[simp] theorem pushAll_nil (buckets : Buckets α) : buckets.pushAll [] = buckets := rfl

@[simp] theorem pushAll_cons (buckets : Buckets α) (clause : Logic × α)
    (rest : List (Logic × α)) :
    buckets.pushAll (clause :: rest) = (buckets.push clause.1 clause.2).pushAll rest := rfl

/-- Pushing clauses appends to each bucket those that go there, in their order. -/
theorem bucket_pushAll (buckets : Buckets α) (clauses : List (Logic × α)) (logic : Logic) :
    (buckets.pushAll clauses).bucket logic =
      buckets.bucket logic ++ (clauses.filter fun clause => clause.1 = logic).map Prod.snd := by
  induction clauses generalizing buckets with
  | nil => exact (List.append_nil _).symm
  | cons clause rest ih =>
      rw [pushAll_cons, ih, bucket_push, List.append_assoc]
      by_cases own : clause.1 = logic
      · rw [if_pos own, List.filter_cons_of_pos (by simpa using own)]
        rfl
      · rw [if_neg own, List.filter_cons_of_neg (by simpa using own)]
        rfl

/-- Clauses of one logic are all seen in its bucket and in no other. -/
theorem bucket_pushAll_map (buckets : Buckets α) (logic : Logic) (clauses : List α)
    (other : Logic) :
    (buckets.pushAll (clauses.map (logic, ·))).bucket other =
      buckets.bucket other ++ if logic = other then clauses else [] := by
  rw [bucket_pushAll, List.filter_map, List.map_map]
  congr 1
  change (clauses.filter fun _ => decide (logic = other)).map id = _
  rw [List.map_id]
  by_cases own : logic = other
  · rw [if_pos own, List.filter_eq_self.mpr fun _ _ => decide_eq_true own]
  · rw [if_neg own, List.filter_eq_nil_iff.mpr fun _ _ => by simpa using own]

@[simp] theorem minimumShouldMatch_pushAll (buckets : Buckets α) (clauses : List (Logic × α)) :
    (buckets.pushAll clauses).minimumShouldMatch = buckets.minimumShouldMatch := by
  induction clauses generalizing buckets with
  | nil => rfl
  | cons clause rest ih => rw [pushAll_cons, ih, minimumShouldMatch_push]

@[simp] theorem bucket_requireMatches (buckets : Buckets α) (n : Nat) (logic : Logic) :
    (buckets.requireMatches n).bucket logic = buckets.bucket logic := by
  cases logic <;> rfl

/-- A combination is known from its buckets and its number of matches. -/
theorem ext_bucket {first second : Buckets α}
    (same : ∀ logic, first.bucket logic = second.bucket logic)
    (minimum : first.minimumShouldMatch = second.minimumShouldMatch) : first = second := by
  obtain ⟨must, should, mustNot, written⟩ := first
  have sameMust := same .must
  have sameShould := same .should
  have sameMustNot := same .mustNot
  simp only [bucket] at sameMust sameShould sameMustNot minimum
  rw [sameMust, sameShould, sameMustNot, minimum]

end Buckets

namespace Condition

/-- The combination that conditions make by themselves. -/
def gather (conditions : List Condition) : BoolQuery :=
  addAll {} conditions

/-- The clauses that a condition contributes to its surroundings. -/
def clauses : Condition → List Query
  | .leaf _ test => test.clauses
  | .group _ [] => []
  | .group _ (child :: rest) => [.bool (gather (child :: rest))]

/-- Adding a condition appends the clauses that it contributes to the bucket
that its logic names, whatever is there already, and does nothing else. -/
theorem addTo_eq (query : BoolQuery) (condition : Condition) :
    condition.addTo query = query.pushAll (condition.clauses.map (condition.logic, ·)) := by
  cases condition with
  | leaf logic test => rw [addTo, clauses, Condition.logic]
  | group logic children =>
      cases children with
      | nil => rw [addTo, clauses]; rfl
      | cons child rest => rw [addTo, clauses]; rfl

/-- A condition in front of others gives its clauses first, if it names the
bucket. -/
private theorem flatMap_clauses_cons (condition : Condition) (rest : List Condition)
    (logic : Logic) :
    ((condition :: rest).filter fun condition => condition.logic = logic).flatMap clauses =
      (if condition.logic = logic then condition.clauses else []) ++
        (rest.filter fun condition => condition.logic = logic).flatMap clauses := by
  by_cases own : condition.logic = logic
  · rw [if_pos own, List.filter_cons_of_pos (by simpa using own), List.flatMap_cons]
  · rw [if_neg own, List.filter_cons_of_neg (by simpa using own), List.nil_append]

/-- Adding conditions leaves what is in a bucket and appends the clauses of
the conditions that name it, in their order. -/
theorem bucket_addAll (query : BoolQuery) (logic : Logic) (conditions : List Condition) :
    (addAll query conditions).bucket logic =
      query.bucket logic ++
        (conditions.filter fun condition => condition.logic = logic).flatMap clauses := by
  induction conditions generalizing query with
  | nil => rw [addAll, List.filter_nil, List.flatMap_nil, List.append_nil]
  | cons condition rest ih =>
      rw [addAll, ih, addTo_eq, Buckets.bucket_pushAll_map, List.append_assoc, flatMap_clauses_cons]

theorem minimumShouldMatch_addAll (query : BoolQuery) (conditions : List Condition) :
    (addAll query conditions).minimumShouldMatch = query.minimumShouldMatch := by
  induction conditions generalizing query with
  | nil => rw [addAll]
  | cons condition rest ih => rw [addAll, ih, addTo_eq, Buckets.minimumShouldMatch_pushAll]

/-- A bucket holds the clauses of the conditions that name it, in their
order, and nothing else. -/
theorem bucket_gather (logic : Logic) (conditions : List Condition) :
    (gather conditions).bucket logic =
      (conditions.filter fun condition => condition.logic = logic).flatMap clauses := by
  rw [gather, bucket_addAll]
  cases logic <;> rfl

theorem bucket_gather_cons (condition : Condition) (rest : List Condition) (logic : Logic) :
    (gather (condition :: rest)).bucket logic =
      (if condition.logic = logic then condition.clauses else []) ++
        (gather rest).bucket logic := by
  rw [bucket_gather, bucket_gather, flatMap_clauses_cons]

@[simp] theorem minimumShouldMatch_gather (conditions : List Condition) :
    (gather conditions).minimumShouldMatch = none :=
  minimumShouldMatch_addAll {} conditions

end Condition

namespace Compiler

/-- The buckets of a compiled query are those of its conditions, with the
clause of the dates in front of `must`. -/
theorem bucket_compile (compiler : Compiler) (conditions : List Condition)
    (window : DateWindow) (zone : Option String) (localZone : String) (logic : Logic) :
    (compiler.compile conditions window zone localZone).bucket logic =
      (if logic = .must then compiler.dateClauses window (effectiveZone zone localZone) else []) ++
        (Condition.gather conditions).bucket logic := by
  have dated : (({} : BoolQuery).pushAll
      ((compiler.dateClauses window (effectiveZone zone localZone)).map (.must, ·))).bucket logic =
        if logic = .must then compiler.dateClauses window (effectiveZone zone localZone)
        else [] := by
    rw [Buckets.bucket_pushAll_map]
    cases logic <;> rfl
  unfold compile
  split
  · rw [Buckets.bucket_requireMatches, Condition.bucket_addAll, dated, Condition.bucket_gather]
  · rw [Condition.bucket_addAll, dated, Condition.bucket_gather]

/-- A number of matches is written for the conditions of the list itself, by
their logic.  It does not depend on whether they have anything to test. -/
theorem minimumShouldMatch_compile (compiler : Compiler) (conditions : List Condition)
    (window : DateWindow) (zone : Option String) (localZone : String) :
    (compiler.compile conditions window zone localZone).minimumShouldMatch =
      if conditions.any (·.logic = .should) then some "1" else none := by
  unfold compile
  split
  · rfl
  · rw [Condition.minimumShouldMatch_addAll, Buckets.minimumShouldMatch_pushAll]

end Compiler

end CriteriaSearch
