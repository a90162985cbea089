import CriteriaSearch.Proofs.Compilation.Clauses

namespace CriteriaSearch

/-!
# The combinations inside a compiled query

The clause of a condition is a combination where the condition is a group, and
where it tests phrases: each field gives one combination of alternatives, and
an alternative with plus signs or a minus gives another one.  There are no
others.  So a property of combinations holds everywhere inside a compiled query
when it holds of these, and for the alternatives with a single minus this is
asked once and for all, since they all look alike.
-/

/-! ## What is inside a combination -/

namespace Buckets

/-- All clauses inside a combination at any depth, itself not included. -/
def inside (query : BoolQuery) : List Query :=
  (query.must ++ (query.should ++ query.mustNot)).flatMap Query.parts

theorem mem_inside_iff {query : BoolQuery} {part : Query} :
    part ∈ query.inside ↔ ∃ logic, ∃ clause ∈ query.bucket logic, part ∈ clause.parts := by
  rw [inside, List.mem_flatMap]
  constructor
  · rintro ⟨clause, member, among⟩
    rcases List.mem_append.mp member with must | later
    · exact ⟨.must, clause, must, among⟩
    · rcases List.mem_append.mp later with should | mustNot
      · exact ⟨.should, clause, should, among⟩
      · exact ⟨.mustNot, clause, mustNot, among⟩
  · rintro ⟨logic, clause, member, among⟩
    refine ⟨clause, ?_, among⟩
    rw [List.mem_append, List.mem_append]
    cases logic with
    | must => exact Or.inl member
    | should => exact Or.inr (Or.inl member)
    | mustNot => exact Or.inr (Or.inr member)

theorem isEmpty_iff {α : Type} {buckets : Buckets α} :
    buckets.isEmpty = true ↔ ∀ logic, buckets.bucket logic = [] := by
  simp only [isEmpty, Bool.and_eq_true, List.isEmpty_iff, and_assoc]
  constructor
  · rintro ⟨must, should, mustNot⟩ logic
    cases logic with
    | must => exact must
    | should => exact should
    | mustNot => exact mustNot
  · intro empty
    exact ⟨empty .must, empty .should, empty .mustNot⟩

theorem isEmpty_eq_false_iff {α : Type} {buckets : Buckets α} :
    buckets.isEmpty = false ↔ ∃ logic, buckets.bucket logic ≠ [] := by
  rw [← Bool.not_eq_true, isEmpty_iff, Classical.not_forall]

end Buckets

/-- All combinations in a clause, at any depth, have the property. -/
def Query.Within (P : BoolQuery → Prop) (clause : Query) : Prop :=
  ∀ nested, .bool nested ∈ clause.parts → P nested

section Within

variable {P : BoolQuery → Prop}

theorem Buckets.forall_bool_mem_inside_iff {query : BoolQuery} :
    (∀ nested, .bool nested ∈ query.inside → P nested) ↔
      ∀ logic, ∀ clause ∈ query.bucket logic, clause.Within P := by
  constructor
  · intro all logic clause member nested among
    exact all nested (mem_inside_iff.mpr ⟨logic, clause, member, among⟩)
  · intro each nested found
    rcases mem_inside_iff.mp found with ⟨logic, clause, member, among⟩
    exact each logic clause member nested among

namespace Query

theorem parts_bool_eq_cons (query : BoolQuery) :
    (Query.bool query).parts = .bool query :: query.inside := by
  rw [parts_bool, Buckets.inside, List.flatMap_append, List.flatMap_append]

theorem within_bool_iff {query : BoolQuery} :
    (Query.bool query).Within P ↔
      P query ∧ ∀ logic, ∀ clause ∈ query.bucket logic, clause.Within P := by
  rw [← Buckets.forall_bool_mem_inside_iff, Within, parts_bool_eq_cons]
  simp only [List.mem_cons, Query.bool.injEq, or_imp, forall_and, forall_eq]

/-- A clause with no other clause inside has no combinations. -/
theorem within_of_parts_eq {clause : Query} (atomic : clause.parts = [clause])
    (single : ∀ query, clause ≠ .bool query) : clause.Within P := by
  intro nested among
  rw [atomic, List.mem_singleton] at among
  exact absurd among.symm (single nested)

theorem within_phrase (field text : String) : (Query.phrase field text).Within P :=
  within_of_parts_eq rfl nofun

end Query

/-! ## The combinations of phrases -/

/-- The words that a phrase value with plus signs asks about. -/
def phraseKept (phrase : List Char) : List (List Char) :=
  ((Text.pieces '+' phrase).map Text.trim).filter fun word => !word.isEmpty

theorem phraseClause_of_mem {phrase : List Char} (signed : '+' ∈ phrase) (field : String) :
    phraseClause field phrase = some (.bool (phraseWords field (phraseKept phrase))) := by
  have more := mt Text.cut_snd_eq_nil_iff.mp (not_not_intro signed)
  rcases List.exists_cons_of_ne_nil more with ⟨second, later, several⟩
  simp only [phraseClause, phraseKept, Text.pieces, several]

theorem phraseWord_cases (field : String) (word : List Char) :
    (∃ text, phraseWord field word = (.must, .phrase field text)) ∨
      ∃ text, phraseWord field word = (.mustNot, .phrase field text) := by
  unfold phraseWord
  split
  · exact Or.inr ⟨_, rfl⟩
  · exact Or.inl ⟨_, rfl⟩

/-- A phrase value without plus signs is one word, unless it is blank. -/
theorem phraseClause_of_not_mem {phrase : List Char} (unsigned : '+' ∉ phrase) (field : String) :
    ∃ clause, phraseClause field phrase = (if Text.isBlank phrase then none else some clause) ∧
      ((∃ text, clause = .phrase field text) ∨
        ∃ text, clause = .bool { mustNot := [.phrase field text] }) := by
  have single : Text.pieces '+' phrase = [phrase] := by
    simp only [Text.pieces, Text.cut_of_not_mem unsigned]
  rcases phraseWord_cases field phrase with ⟨text, sign⟩ | ⟨text, sign⟩
  · refine ⟨.phrase field text, ?_, Or.inl ⟨text, rfl⟩⟩
    simp only [phraseClause, single, sign]
  · refine ⟨.bool { mustNot := [.phrase field text] }, ?_, Or.inr ⟨text, rfl⟩⟩
    simp only [phraseClause, single, sign]

theorem phraseWords_within_iff {field : String} {words : List (List Char)} :
    (Query.bool (phraseWords field words)).Within P ↔ P (phraseWords field words) := by
  rw [Query.within_bool_iff, and_iff_left_iff_imp]
  intro _ logic clause member
  rw [phraseWords, Buckets.bucket_pushAll, List.mem_append] at member
  rcases member with before | pushed
  · cases logic <;> cases before
  · rcases List.mem_map.mp pushed with ⟨word, among, rfl⟩
    rcases List.mem_map.mp (List.mem_filter.mp among).1 with ⟨text, -, rfl⟩
    rcases phraseWord_cases field text with ⟨text, sign⟩ | ⟨text, sign⟩
    · rw [sign]
      exact Query.within_phrase field text
    · rw [sign]
      exact Query.within_phrase field text

variable (excluded : ∀ clause, P { mustNot := [clause] })

include excluded

theorem phraseClause_within_iff {field : String} {phrase : List Char} :
    (∀ clause ∈ phraseClause field phrase, clause.Within P) ↔
      ('+' ∈ phrase → P (phraseWords field (phraseKept phrase))) := by
  by_cases signed : '+' ∈ phrase
  · rw [phraseClause_of_mem signed]
    simp only [Option.mem_def, Option.some.injEq, forall_eq', phraseWords_within_iff, signed,
      true_imp_iff]
  · rcases phraseClause_of_not_mem signed field with ⟨clause, made, shape⟩
    refine iff_of_true (fun found member => ?_) (absurd · signed)
    rw [made] at member
    split at member
    · cases member
    · cases member
      rcases shape with ⟨text, rfl⟩ | ⟨text, rfl⟩
      · exact Query.within_phrase field text
      · refine Query.within_bool_iff.mpr ⟨excluded _, fun logic inner listed => ?_⟩
        cases logic with
        | mustNot =>
            rw [List.mem_singleton.mp listed]
            exact Query.within_phrase field text
        | _ => cases listed

omit excluded in
theorem forall_mem_bucket_phraseAlternatives_iff {P : Query → Prop} {field : String}
    {phrases : List String} :
    (∀ logic, ∀ clause ∈ (phraseAlternatives field phrases).bucket logic, P clause) ↔
      ∀ phrase ∈ phrases, ∀ clause ∈ phraseClause field phrase.toList, P clause := by
  constructor
  · intro each phrase listed clause made
    exact each .should clause (List.mem_filterMap.mpr ⟨phrase, listed, made⟩)
  · intro each logic clause member
    cases logic with
    | should =>
        rcases List.mem_filterMap.mp member with ⟨phrase, listed, made⟩
        exact each phrase listed clause made
    | _ => cases member

theorem phraseAlternatives_within_iff {field : String} {phrases : List String} :
    (Query.bool (phraseAlternatives field phrases)).Within P ↔
      P (phraseAlternatives field phrases) ∧
        ∀ phrase ∈ phrases, '+' ∈ phrase.toList →
          P (phraseWords field (phraseKept phrase.toList)) := by
  rw [Query.within_bool_iff, forall_mem_bucket_phraseAlternatives_iff]
  simp only [phraseClause_within_iff excluded]

omit excluded in
theorem Leaf.eq_range_of_rangeClause {field : String} {entry : RangeEntry} {clause : Query}
    (made : rangeClause field entry = some clause) : ∃ range, clause = .range range := by
  cases entry with
  | bounds bounds =>
      rw [rangeClause] at made
      split at made
      · cases made
      · exact ⟨_, (Option.some.inj made).symm⟩
  | _ => cases made

omit excluded in
/-- The clauses of a leaf are the combinations of its phrases, or they have no
other clause inside and are no phrases either. -/
theorem Leaf.forall_mem_clauses_iff {P : Query → Prop}
    (atomic : ∀ clause : Query, clause.parts = [clause] → (∀ query, clause ≠ .bool query) →
      (∀ field text, clause ≠ .phrase field text) → P clause) (leaf : Leaf) :
    (∀ clause ∈ leaf.clauses, P clause) ↔
      ∀ fields, leaf = .phrase fields → ∀ entry ∈ fields.entries, entry.2 ≠ [] →
        P (.bool (phraseAlternatives entry.1 entry.2)) := by
  cases leaf with
  | phrase fields =>
      simp only [Leaf.phrase.injEq, forall_eq']
      constructor
      · intro each entry listed filled
        refine each _ (List.mem_filterMap.mpr ⟨entry, listed, ?_⟩)
        exact if_neg (by simpa using filled)
      · intro each clause member
        rcases mem_filterMap_unless member with ⟨entry, listed, filled, rfl⟩
        exact each entry listed (by simpa using filled)
  | range fields =>
      refine iff_of_true (fun clause member => ?_) nofun
      rcases List.mem_filterMap.mp member with ⟨⟨field, entry⟩, -, made⟩
      rcases eq_range_of_rangeClause made with ⟨range, rfl⟩
      exact atomic _ rfl nofun nofun
  | _ fields =>
      refine iff_of_true (fun clause member => ?_) nofun
      rcases mem_filterMap_unless member with ⟨entry, -, -, rfl⟩
      exact atomic _ rfl nofun nofun

/-- Among the clauses of leaves, those of phrases alone are combinations. -/
theorem Leaf.within_clauses_iff (leaf : Leaf) :
    (∀ clause ∈ leaf.clauses, clause.Within P) ↔
      ∀ fields, leaf = .phrase fields → ∀ entry ∈ fields.entries, entry.2 ≠ [] →
        P (phraseAlternatives entry.1 entry.2) ∧
          ∀ phrase ∈ entry.2, '+' ∈ phrase.toList →
            P (phraseWords entry.1 (phraseKept phrase.toList)) := by
  rw [forall_mem_clauses_iff fun clause atomic single _ => Query.within_of_parts_eq atomic single]
  simp only [phraseAlternatives_within_iff excluded]

omit excluded

namespace Condition

theorem forall_mem_bucket_gather_iff {conditions : List Condition} {P : Query → Prop} :
    (∀ logic, ∀ clause ∈ (gather conditions).bucket logic, P clause) ↔
      ∀ condition ∈ conditions, ∀ clause ∈ condition.clauses, P clause := by
  constructor
  · intro each condition listed clause member
    refine each condition.logic clause ?_
    rw [bucket_gather, List.mem_flatMap]
    exact ⟨condition, List.mem_filter.mpr ⟨listed, decide_eq_true rfl⟩, member⟩
  · intro each logic
    exact forall_mem_bucket_gather each

theorem within_clauses_group_iff {logic : Logic} {children : List Condition} :
    (∀ clause ∈ (group logic children).clauses, clause.Within P) ↔
      (children ≠ [] → P (gather children) ∧
        ∀ child ∈ children, ∀ clause ∈ child.clauses, clause.Within P) := by
  cases children with
  | nil => simp [clauses]
  | cons child rest =>
      rw [clauses, List.forall_mem_singleton, Query.within_bool_iff, forall_mem_bucket_gather_iff]
      simp only [ne_eq, reduceCtorEq, not_false_eq_true, true_imp_iff]

end Condition

end Within

end CriteriaSearch
