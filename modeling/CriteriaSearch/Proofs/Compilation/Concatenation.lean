import CriteriaSearch.Proofs.Compilation.Buckets

namespace CriteriaSearch

/-!
# Compiling lists of conditions piece by piece

What a condition contributes does not depend on its neighbours, and it goes
behind what the conditions before it have contributed to the same bucket.
Compilation therefore turns the concatenation of lists into the concatenation
of buckets.  The dates are no exception: their clause comes first, so it
belongs to the first of two lists and is missing in the second.

Everything about the order of conditions follows.  A condition is seen in one
bucket only, neighbours that are seen in different buckets may change places,
and another order of all conditions is another order within each bucket.  The
same is said of the conditions of a list and of the conditions of a group, so
it is stated once for any way to combine conditions.
-/

namespace Condition

/-- Conditions are combined bucket by bucket.  `more` combines conditions that
stand behind others. -/
structure Bucketwise (combine more : List Condition → BoolQuery) : Prop where
  /-- A bucket of two lists is the bucket of the first and then that of the
  second. -/
  append (first later : List Condition) (logic : Logic) :
    (combine (first ++ later)).bucket logic =
      (combine first).bucket logic ++ (more later).bucket logic
  /-- A number of matches is written if it is written for either list. -/
  minimum (first later : List Condition) :
    (combine (first ++ later)).minimumShouldMatch =
      (combine first).minimumShouldMatch.or (more later).minimumShouldMatch
  /-- A condition does not touch the buckets of other logics. -/
  own (before after : List Condition) (condition : Condition) (logic : Logic) :
    condition.logic ≠ logic →
      (combine (before ++ condition :: after)).bucket logic =
        (combine (before ++ after)).bucket logic
  /-- Neighbours of different logic may change places. -/
  swap (before after : List Condition) (first second : Condition) :
    first.logic ≠ second.logic →
      combine (before ++ first :: second :: after) =
          combine (before ++ second :: first :: after) ∧
        (combine (before ++ first :: second :: after)).source =
          (combine (before ++ second :: first :: after)).source
  /-- Another order of the conditions is another order within each bucket. -/
  perm (conditions arranged : List Condition) :
    conditions.Perm arranged →
      (∀ logic, ((combine conditions).bucket logic).Perm ((combine arranged).bucket logic)) ∧
        (combine conditions).minimumShouldMatch = (combine arranged).minimumShouldMatch

theorem bucket_gather_append (first later : List Condition) (logic : Logic) :
    (gather (first ++ later)).bucket logic =
      (gather first).bucket logic ++ (gather later).bucket logic := by
  rw [bucket_gather, bucket_gather, bucket_gather, List.filter_append, List.flatMap_append]

theorem bucket_gather_cons_of_ne {condition : Condition} {logic : Logic}
    (other : condition.logic ≠ logic) (rest : List Condition) :
    (gather (condition :: rest)).bucket logic = (gather rest).bucket logic := by
  rw [bucket_gather_cons, if_neg other, List.nil_append]

/-- Of two neighbours of different logic, at most one is seen in a bucket. -/
theorem bucket_gather_swap {first second : Condition} (different : first.logic ≠ second.logic)
    (rest : List Condition) (logic : Logic) :
    (gather (first :: second :: rest)).bucket logic =
      (gather (second :: first :: rest)).bucket logic := by
  by_cases own : first.logic = logic
  · have other : second.logic ≠ logic := fun same => different (own.trans same.symm)
    rw [bucket_gather_cons, bucket_gather_cons_of_ne other, bucket_gather_cons_of_ne other,
      bucket_gather_cons]
  · rw [bucket_gather_cons_of_ne own, bucket_gather_cons, bucket_gather_cons,
      bucket_gather_cons_of_ne own]

theorem bucket_gather_perm {conditions arranged : List Condition}
    (perm : conditions.Perm arranged) (logic : Logic) :
    ((gather conditions).bucket logic).Perm ((gather arranged).bucket logic) := by
  rw [bucket_gather, bucket_gather]
  exact (perm.filter _).flatMap_right clauses

/-- Conditions are combined bucket by bucket if the buckets hold what is
gathered from them behind something fixed, and a number of matches depends on
whether there are conditions of some sort. -/
theorem bucketwise_of_gather {combine more : List Condition → BoolQuery}
    {front : Logic → List Query} {asks : Condition → Bool} {asked : String}
    (bucket : ∀ conditions logic,
      (combine conditions).bucket logic = front logic ++ (gather conditions).bucket logic)
    (minimum : ∀ conditions, (combine conditions).minimumShouldMatch =
      if conditions.any asks then some asked else none)
    (bucketMore : ∀ conditions logic,
      (more conditions).bucket logic = (gather conditions).bucket logic)
    (minimumMore : ∀ conditions, (more conditions).minimumShouldMatch =
      if conditions.any asks then some asked else none) : Bucketwise combine more where
  append first later logic := by
    rw [bucket, bucket, bucketMore, bucket_gather_append, List.append_assoc]
  minimum first later := by
    rw [minimum, minimum, minimumMore, List.any_append]
    cases first.any asks <;> cases later.any asks <;> rfl
  own before after condition logic other := by
    rw [bucket, bucket, bucket_gather_append, bucket_gather_append,
      bucket_gather_cons_of_ne other]
  swap before after first second different := by
    have same : combine (before ++ first :: second :: after) =
        combine (before ++ second :: first :: after) := by
      apply Buckets.ext_bucket
      · intro logic
        rw [bucket, bucket, bucket_gather_append, bucket_gather_append,
          bucket_gather_swap different]
      · have perm : (before ++ first :: second :: after).Perm
            (before ++ second :: first :: after) :=
          (List.Perm.swap second first after).append_left before
        rw [minimum, minimum, perm.any_eq]
    exact ⟨same, congrArg Buckets.source same⟩
  perm conditions arranged perm := by
    constructor
    · intro logic
      rw [bucket, bucket]
      exact (bucket_gather_perm perm logic).append_left (front logic)
    · rw [minimum, minimum, perm.any_eq]

theorem bucketwise_gather : Bucketwise gather gather := by
  have unwritten (conditions : List Condition) : (gather conditions).minimumShouldMatch =
      if conditions.any (fun _ => false) then some "" else none := by
    rw [minimumShouldMatch_gather, if_neg (by simp)]
  have alone (conditions : List Condition) (logic : Logic) : (gather conditions).bucket logic =
      (fun _ => []) logic ++ (gather conditions).bucket logic := rfl
  exact bucketwise_of_gather alone unwritten (fun _ _ => rfl) unwritten

end Condition

namespace Compiler

/-- The conditions of a list are combined bucket by bucket, with the window of
dates in front of all of them.  Each appends its clauses to one bucket of
whatever is there, and the clause of a group combines the conditions in it
bucket by bucket again. -/
theorem compile_bucketwise (compiler : Compiler) (window : DateWindow) (zone : Option String)
    (localZone : String) :
    Condition.Bucketwise (fun conditions => compiler.compile conditions window zone localZone)
        (fun conditions => compiler.compile conditions {} zone localZone) ∧
      (∀ (condition : Condition) (query : BoolQuery) (logic : Logic),
        (condition.addTo query).bucket logic =
          query.bucket logic ++ if condition.logic = logic then condition.clauses else []) ∧
      (∀ (logic : Logic) (children : List Condition), children ≠ [] →
        (Condition.group logic children).clauses = [.bool (Condition.gather children)]) ∧
      Condition.Bucketwise Condition.gather Condition.gather := by
  refine ⟨?_, ?_, ?_, Condition.bucketwise_gather⟩
  · refine Condition.bucketwise_of_gather (fun conditions logic => bucket_compile ..)
      (fun conditions => minimumShouldMatch_compile ..) (fun conditions logic => ?_)
      (fun conditions => minimumShouldMatch_compile ..)
    rw [bucket_compile]
    exact congrArg (· ++ (Condition.gather conditions).bucket logic) (ite_self [])
  · intro condition query logic
    rw [Condition.addTo_eq, Buckets.bucket_pushAll_map]
  · intro logic children inhabited
    cases children with
    | nil => exact absurd rfl inhabited
    | cons child rest => rw [Condition.clauses]

end Compiler

end CriteriaSearch
