import CriteriaSearch.Proofs.Compilation.Buckets
import CriteriaSearch.Proofs.Condition.Verdict

namespace CriteriaSearch

/-!
# Compilation keeps the meaning of conditions

Under any valuation of the atomic clauses, the clauses that a condition is
compiled to hold exactly as the verdicts of the condition say, one for one.
For a leaf this is checked kind by kind; the one kind that takes work is the
phrases, whose values are words with signs.  For a group it follows from its
conditions: a bucket of the nested combination has the verdicts of the
conditions that name it, and the engine reads the nested combination, in which
no number of matches is written, as the group is meant.

At the root a number of matches is written as soon as one condition has the
logic `should`.  Then one of the `should` verdicts is required, also where
there are none; and where no condition has that logic, the bucket is empty and
requires nothing.
-/

variable (valuation : Valuation)

/-! ## Phrases -/

/-- A word asks for the absence of its phrase or for its presence, and its
clause goes into the bucket that says so. -/
private theorem word_cases (field : String) (word : List Char) :
    (∃ clause, phraseWord field word = (.mustNot, clause) ∧
        wordHolds valuation field word = !clause.holds valuation) ∨
      ∃ clause, phraseWord field word = (.must, clause) ∧
        wordHolds valuation field word = clause.holds valuation := by
  by_cases signed : ∃ excluded, word = '-' :: excluded
  · rcases signed with ⟨excluded, rfl⟩
    exact Or.inl ⟨_, rfl, rfl⟩
  · refine Or.inr ⟨.phrase field (String.ofList word), ?_, ?_⟩
    · unfold phraseWord
      split
      · next excluded => exact absurd ⟨excluded, rfl⟩ signed
      · rfl
    · unfold wordHolds
      split
      · next excluded => exact absurd ⟨excluded, rfl⟩ signed
      · rfl

private theorem holds_push_word (must mustNot : List Query) (field : String)
    (word : List Char) :
    ∃ must' mustNot',
      (Buckets.push { must, mustNot } (phraseWord field word).1 (phraseWord field word).2 :
          BoolQuery) = { must := must', mustNot := mustNot' } ∧
        (Query.bool { must := must', mustNot := mustNot' }).holds valuation =
          ((Query.bool { must, mustNot }).holds valuation && wordHolds valuation field word) := by
  rcases word_cases valuation field word with ⟨clause, sign, meant⟩ | ⟨clause, sign, meant⟩
  · refine ⟨must, mustNot ++ [clause], by rw [sign]; rfl, ?_⟩
    rw [meant, Query.holds_bool_without_should, Query.holds_bool_without_should]
    simp [Bool.and_assoc]
  · refine ⟨must ++ [clause], mustNot, by rw [sign]; rfl, ?_⟩
    rw [meant, Query.holds_bool_without_should, Query.holds_bool_without_should, List.all_append,
      Bool.and_right_comm]
    simp

private theorem holds_pushAll_words (field : String) (words : List (List Char))
    (must mustNot : List Query) :
    (Query.bool (({ must, mustNot } : BoolQuery).pushAll (words.map (phraseWord field)))).holds
        valuation =
      ((Query.bool { must, mustNot }).holds valuation &&
        words.all (wordHolds valuation field)) := by
  induction words generalizing must mustNot with
  | nil => rw [List.map_nil, Buckets.pushAll_nil, List.all_nil, Bool.and_true]
  | cons word rest ih =>
      have push := holds_push_word valuation must mustNot field word
      rcases push with ⟨must', mustNot', pushed, meant⟩
      rw [List.map_cons, Buckets.pushAll_cons, pushed, ih, meant, List.all_cons, Bool.and_assoc]

theorem holds_phraseWords (field : String) (words : List (List Char)) :
    (Query.bool (phraseWords field words)).holds valuation =
      words.all (wordHolds valuation field) := by
  rw [phraseWords, holds_pushAll_words valuation field words [] [], Query.holds_bool_without_should]
  simp

/-- The clause of a phrase value says what its words ask for. -/
theorem map_holds_phraseClause (field : String) (phrase : List Char) :
    (phraseClause field phrase).map (Query.holds valuation) =
      (askedWords phrase).map fun words => words.all (wordHolds valuation field) := by
  unfold phraseClause askedWords
  by_cases signed : '+' ∈ phrase
  · have more := mt Text.cut_snd_eq_nil_iff.mp (not_not_intro signed)
    rcases List.exists_cons_of_ne_nil more with ⟨second, later, several⟩
    rw [if_pos signed]
    simp only [Text.pieces, several, Option.map_some]
    rw [holds_phraseWords]
  · rw [if_neg signed]
    simp only [Text.pieces, Text.cut_of_not_mem signed]
    by_cases blank : Text.isBlank phrase = true
    · rw [if_pos blank, if_pos blank]
      rfl
    · rw [if_neg blank, if_neg blank, Option.map_some, List.all_cons, List.all_nil,
        Bool.and_true]
      rcases word_cases valuation field phrase with ⟨clause, sign, meant⟩ | ⟨clause, sign, meant⟩
      · rw [sign, meant, Option.map_some, Query.holds_bool_without_should]
        simp
      · rw [sign, meant, Option.map_some]

/-- The alternatives of a field are met as its phrase values are. -/
theorem holds_phraseAlternatives (field : String) (phrases : List String) :
    (Query.bool (phraseAlternatives field phrases)).holds valuation =
      phrasesHold valuation field phrases := by
  have values : (phrases.filterMap fun phrase => phraseClause field phrase.toList).map
        (Query.holds valuation) =
      (phrases.filterMap fun phrase => askedWords phrase.toList).map
        fun words => words.all (wordHolds valuation field) := by
    simp only [List.map_filterMap, map_holds_phraseClause]
  rw [Query.holds_bool, phrasesHold]
  simp only [Buckets.map, phraseAlternatives, values]
  cases phrases.filterMap fun phrase => askedWords phrase.toList with
  | nil => rfl
  | cons words rest =>
      apply Bool.eq_iff_iff.mpr
      rw [Buckets.verdict_iff_of_minimum_none rfl]
      simp

/-! ## Leaves -/

private theorem map_filterMap_unless {β γ δ : Type} (items : List β) (skipped : β → Prop)
    [DecidablePred skipped] (make : β → γ) (f : γ → δ) :
    (items.filterMap fun item => if skipped item then none else some (make item)).map f =
      (items.filter fun item => decide (¬ skipped item)).map fun item => f (make item) := by
  induction items with
  | nil => rfl
  | cons item rest ih =>
      by_cases skip : skipped item
      · simp only [List.filterMap_cons, if_pos skip, ih]
        rw [List.filter_cons_of_neg (by simpa using skip)]
      · simp only [List.filterMap_cons, if_neg skip, List.map_cons, ih]
        rw [List.filter_cons_of_pos (by simpa using skip), List.map_cons]

private theorem map_holds_rangeClause (field : String) (entry : RangeEntry) :
    (Leaf.rangeClause field entry).map (Query.holds valuation) =
      rangeVerdict valuation field entry := by
  cases entry with
  | unset => rfl
  | ignored => rfl
  | bounds bounds =>
      rcases bounds with ⟨lower, upper, includeLower, includeUpper⟩
      cases lower <;> cases upper <;> rfl

/-- The clauses of a leaf hold as its verdicts say. -/
theorem Leaf.map_holds_clauses (leaf : Leaf) :
    leaf.clauses.map (Query.holds valuation) = leaf.verdicts valuation := by
  cases leaf with
  | terms fields =>
      simp only [Leaf.clauses, Leaf.verdicts, map_filterMap_unless]
      simp [Query.holds]
  | phrase fields =>
      simp only [Leaf.clauses, Leaf.verdicts, map_filterMap_unless, holds_phraseAlternatives]
      simp
  | range fields =>
      simp only [Leaf.clauses, Leaf.verdicts, List.map_filterMap, map_holds_rangeClause]
  | start fields => simp only [Leaf.clauses, Leaf.verdicts, map_filterMap_unless, Query.holds]
  | pattern fields => simp only [Leaf.clauses, Leaf.verdicts, map_filterMap_unless, Query.holds]
  | presence fields => simp only [Leaf.clauses, Leaf.verdicts, map_filterMap_unless, Query.holds]

/-! ## Groups -/

namespace Condition

private theorem verdict_eq_groupHolds (must should mustNot : List Bool) :
    (Buckets.mk must should mustNot none).verdict = groupHolds must should mustNot := by
  apply Bool.eq_iff_iff.mpr
  rw [Buckets.verdict_iff_of_minimum_none rfl, groupHolds]
  cases must with
  | nil => cases should <;> simp
  | cons _ _ => simp

mutual

/-- The clauses of a condition hold as its verdicts say, one for one. -/
theorem map_holds_clauses : (condition : Condition) →
    condition.clauses.map (Query.holds valuation) = condition.verdicts valuation
  | .leaf _ test => by rw [clauses, verdicts, Leaf.map_holds_clauses]
  | .group _ [] => by rw [clauses, verdicts, List.map_nil]
  | .group _ (child :: rest) => by
      have must := map_holds_bucket_gather .must (child :: rest)
      have should := map_holds_bucket_gather .should (child :: rest)
      have mustNot := map_holds_bucket_gather .mustNot (child :: rest)
      rw [clauses, verdicts, List.map_cons, List.map_nil, Query.holds_bool, ← must, ← should,
        ← mustNot, ← verdict_eq_groupHolds, Buckets.map, minimumShouldMatch_gather]
      rfl

/-- A bucket of gathered conditions holds, clause by clause, as the verdicts
of the conditions that name it. -/
theorem map_holds_bucket_gather (logic : Logic) : (conditions : List Condition) →
    ((gather conditions).bucket logic).map (Query.holds valuation) =
      pooled valuation logic conditions
  | [] => by cases logic <;> rfl
  | condition :: rest => by
      have own := map_holds_clauses condition
      have later := map_holds_bucket_gather logic rest
      rw [bucket_gather_cons, List.map_append, later, pooled]
      by_cases same : condition.logic = logic
      · rw [if_pos same, if_pos same, own]
      · rw [if_neg same, if_neg same, List.map_nil, List.nil_append]

end

/-- All verdicts of the conditions with some logic have a property when those
of each such condition have it. -/
private theorem forall_mem_pooled {logic : Logic} {conditions : List Condition}
    {wanted : Bool} :
    (∀ value ∈ pooled valuation logic conditions, value = wanted) ↔
      ∀ condition ∈ conditions, condition.logic = logic →
        ∀ value ∈ condition.verdicts valuation, value = wanted := by
  constructor
  · intro all condition member own value among
    exact all value (mem_pooled.mpr ⟨condition, member, own, among⟩)
  · intro each value among
    rcases mem_pooled.mp among with ⟨condition, member, own, among⟩
    exact each condition member own value among

private theorem exists_mem_pooled {logic : Logic} {conditions : List Condition} :
    (∃ value ∈ pooled valuation logic conditions, value = true) ↔
      ∃ condition ∈ conditions, condition.logic = logic ∧
        ∃ value ∈ condition.verdicts valuation, value = true := by
  constructor
  · rintro ⟨value, among, holds⟩
    rcases mem_pooled.mp among with ⟨condition, member, own, among⟩
    exact ⟨condition, member, own, value, among, holds⟩
  · rintro ⟨condition, member, own, value, among, holds⟩
    exact ⟨value, mem_pooled.mpr ⟨condition, member, own, among⟩, holds⟩

end Condition

/-! ## Whole queries -/

namespace Compiler

private theorem forall_mem_map_dateClauses (compiler : Compiler) (window : DateWindow)
    (zone : String) :
    (∀ value ∈ (compiler.dateClauses window zone).map (Query.holds valuation), value = true) ↔
      (window.isSet = true → (compiler.dateClause window zone).holds valuation = true) := by
  unfold dateClauses
  split
  · next effective => simp [effective]
  · next idle => simp [idle]

/-- A bucket of a compiled query holds, clause by clause, as the dates and the
verdicts of the conditions that name it. -/
private theorem map_holds_bucket_compile (compiler : Compiler) (conditions : List Condition)
    (window : DateWindow) (zone : Option String) (localZone : String) (logic : Logic) :
    ((compiler.compile conditions window zone localZone).bucket logic).map
        (Query.holds valuation) =
      (if logic = .must then (compiler.dateClauses window (effectiveZone zone localZone)).map
        (Query.holds valuation) else []) ++ Condition.pooled valuation logic conditions := by
  rw [bucket_compile, List.map_append, Condition.map_holds_bucket_gather]
  cases logic <;> rfl

/-- The engine reads a compiled query as the dates and the pooled verdicts.  If
a condition has the logic `should`, one match is written; otherwise nothing is
written, and the empty bucket asks for nothing. -/
private theorem holds_compile_iff_pooled (compiler : Compiler) (conditions : List Condition)
    (window : DateWindow) (zone : Option String) (localZone : String) :
    (Query.bool (compiler.compile conditions window zone localZone)).holds valuation = true ↔
      (∀ value ∈ (compiler.dateClauses window (effectiveZone zone localZone)).map
          (Query.holds valuation) ++ Condition.pooled valuation .must conditions, value = true) ∧
      (∀ value ∈ Condition.pooled valuation .mustNot conditions, value = false) ∧
      ((∃ condition ∈ conditions, condition.logic = .should) →
        ∃ value ∈ Condition.pooled valuation .should conditions, value = true) := by
  have minimum : ((compiler.compile conditions window zone localZone).map
      (Query.holds valuation)).minimumShouldMatch =
        if conditions.any (·.logic = .should) then some "1" else none :=
    minimumShouldMatch_compile compiler conditions window zone localZone
  have must : ((compiler.compile conditions window zone localZone).map
      (Query.holds valuation)).must =
        (compiler.dateClauses window (effectiveZone zone localZone)).map (Query.holds valuation) ++
          Condition.pooled valuation .must conditions :=
    map_holds_bucket_compile valuation compiler conditions window zone localZone .must
  have mustNot : ((compiler.compile conditions window zone localZone).map
      (Query.holds valuation)).mustNot = Condition.pooled valuation .mustNot conditions :=
    map_holds_bucket_compile valuation compiler conditions window zone localZone .mustNot
  have should : ((compiler.compile conditions window zone localZone).map
      (Query.holds valuation)).should = Condition.pooled valuation .should conditions :=
    map_holds_bucket_compile valuation compiler conditions window zone localZone .should
  rw [Query.holds_bool]
  by_cases alternative : (conditions.any fun condition => condition.logic = .should) = true
  · have some_should : ∃ condition ∈ conditions, condition.logic = .should := by
      simpa using alternative
    rw [if_pos alternative] at minimum
    rw [Buckets.verdict_iff_of_minimum_one minimum, must, mustNot, should]
    simp only [some_should, true_imp_iff]
  · have no_should : ¬ ∃ condition ∈ conditions, condition.logic = .should := by
      simpa using alternative
    have empty : Condition.pooled valuation .should conditions = [] := by
      apply List.eq_nil_iff_forall_not_mem.mpr
      intro value among
      rcases Condition.mem_pooled.mp among with ⟨condition, member, own, -⟩
      exact no_should ⟨condition, member, own⟩
    rw [if_neg alternative] at minimum
    rw [Buckets.verdict_iff_of_minimum_none minimum, must, mustNot, should, empty]
    simp only [no_should, false_imp_iff, ne_eq, not_true_eq_false, implies_true]

/-- A compiled query holds exactly when the window of dates, if it takes
effect, and the conditions all agree: every verdict of a `must` condition
holds, none of a `must_not` condition does, and if any condition has the logic
`should`, one of the verdicts of those conditions holds. -/
theorem holds_compile_iff (compiler : Compiler) (conditions : List Condition)
    (window : DateWindow) (zone : Option String) (localZone : String) :
    (Query.bool (compiler.compile conditions window zone localZone)).holds valuation = true ↔
      (window.field ≠ "" ∧ window.start ≠ "" ∧ window.stop ≠ "" →
        valuation (.range {
          field := window.field
          lower := some (.str window.start)
          upper := some (.str window.stop)
          includeLower := true
          includeUpper := false
          format := some (String.intercalate "||" compiler.dateFormats)
          timeZone := some (effectiveZone zone localZone) }) = true) ∧
      (∀ condition ∈ conditions, condition.logic = .must →
        ∀ value ∈ condition.verdicts valuation, value = true) ∧
      (∀ condition ∈ conditions, condition.logic = .mustNot →
        ∀ value ∈ condition.verdicts valuation, value = false) ∧
      ((∃ condition ∈ conditions, condition.logic = .should) →
        ∃ condition ∈ conditions, condition.logic = .should ∧
          ∃ value ∈ condition.verdicts valuation, value = true) := by
  rw [holds_compile_iff_pooled]
  simp only [List.mem_append, or_imp, forall_and, forall_mem_map_dateClauses,
    Condition.forall_mem_pooled, Condition.exists_mem_pooled, and_assoc]
  simp only [DateWindow.isSet, Bool.and_eq_true, decide_eq_true_eq, and_assoc]
  rfl

/-- A `should` condition with nothing to test can not be met: one match is
asked for and there is no clause to give it. -/
example : (Query.bool (compile {} [.leaf .should (.presence [])] {} none "UTC")).holds
    (fun _ => true) = false := by
  decide

end Compiler

end CriteriaSearch
