import CriteriaSearch.Proofs.Compilation.Buckets

namespace CriteriaSearch

/-!
# The clauses of a compiled query

A leaf may hold entries that test nothing: no values, an empty text, a range
without an end.  Compilation leaves these out, so that the engine is never sent
an atomic clause that it would refuse.  What the values themselves have to be is
known before, since a leaf holds scalars and bounds that are not null.  Both
facts together say of every clause, however deep it stands in a combination,
that it is well formed.

A date format and a time zone belong to the clause of a window of dates.  The
clauses of conditions have neither, so among all the clauses of a query that
one is found by them.  It stands first in the `must` bucket of the root.
-/

/-! ## Properties that combinations inherit -/

/-- A combination has the property as soon as all clauses in its buckets have
it. -/
def Query.Combines (P : Query → Prop) : Prop :=
  ∀ query : BoolQuery, (∀ logic, ∀ clause ∈ query.bucket logic, P clause) → P (.bool query)

theorem Condition.forall_mem_bucket_gather {P : Query → Prop} {conditions : List Condition}
    (each : ∀ condition ∈ conditions, ∀ clause ∈ condition.clauses, P clause) {logic : Logic} :
    ∀ clause ∈ (gather conditions).bucket logic, P clause := by
  intro clause member
  rw [bucket_gather] at member
  rcases List.mem_flatMap.mp member with ⟨condition, named, own⟩
  exact each condition (List.mem_filter.mp named).1 clause own

namespace Query.Combines

variable {P : Query → Prop}

private theorem pushAll (words : List (Logic × Query)) (each : ∀ word ∈ words, P word.2)
    (logic : Logic) : ∀ clause ∈ (({} : BoolQuery).pushAll words).bucket logic, P clause := by
  intro clause member
  rw [Buckets.bucket_pushAll, List.mem_append] at member
  rcases member with before | pushed
  · cases logic <;> cases before
  · rcases List.mem_map.mp pushed with ⟨word, named, rfl⟩
    exact each word (List.mem_filter.mp named).1

private theorem phraseWord (phrases : ∀ field text, P (.phrase field text)) (field : String)
    (word : List Char) : P (phraseWord field word).2 := by
  unfold CriteriaSearch.phraseWord
  split
  · exact phrases field _
  · exact phrases field _

theorem phraseWords (combines : Combines P) (phrases : ∀ field text, P (.phrase field text))
    (field : String) (words : List (List Char)) : P (.bool (phraseWords field words)) := by
  refine combines _ fun logic => pushAll _ ?_ logic
  intro word member
  rcases List.mem_map.mp member with ⟨text, -, rfl⟩
  exact phraseWord phrases field text

theorem phraseClause (combines : Combines P) (phrases : ∀ field text, P (.phrase field text))
    (field : String) (phrase : List Char) : ∀ clause ∈ phraseClause field phrase, P clause := by
  intro clause made
  have word := phraseWord phrases field phrase
  unfold CriteriaSearch.phraseClause at made
  split at made
  · cases made
  · split at made
    · cases made
    · split at made
      · next excluded sign =>
          cases made
          rw [sign] at word
          refine combines _ fun logic clause member => ?_
          cases logic with
          | mustNot => rwa [List.mem_singleton.mp member]
          | _ => cases member
      · next sign =>
          cases made
          rwa [sign] at word
  · cases made
    exact combines.phraseWords phrases field _

/-- The alternatives of a field are built from single phrases. -/
theorem phraseAlternatives (combines : Combines P)
    (phrases : ∀ field text, P (.phrase field text)) (field : String) (values : List String) :
    P (.bool (phraseAlternatives field values)) := by
  refine combines _ fun logic clause member => ?_
  cases logic with
  | should =>
      rcases List.mem_filterMap.mp member with ⟨phrase, -, made⟩
      exact combines.phraseClause phrases field phrase.toList clause made
  | _ => cases member

/-- The clause of a group is built from those of its conditions. -/
theorem group (combines : Combines P) {logic : Logic} {children : List Condition}
    (each : ∀ child ∈ children, ∀ clause ∈ child.clauses, P clause) :
    ∀ clause ∈ (Condition.group logic children).clauses, P clause := by
  cases children with
  | nil =>
      rw [Condition.clauses]
      exact List.forall_mem_nil _
  | cons child rest =>
      rw [Condition.clauses]
      intro clause member
      rw [List.mem_singleton.mp member]
      exact combines _ fun logic => Condition.forall_mem_bucket_gather each

end Query.Combines

/-! ## Clauses that are well formed -/

namespace Query

mutual

/-- All clauses of a query at any depth, itself included. -/
def parts : Query → List Query
  | .bool ⟨must, should, mustNot, minimum⟩ =>
    .bool ⟨must, should, mustNot, minimum⟩ ::
      (allParts must ++ (allParts should ++ allParts mustNot))
  | .scored query script => .scored query script :: query.parts
  | .terms field values => [.terms field values]
  | .range clause => [.range clause]
  | .phrase field text => [.phrase field text]
  | .start field text => [.start field text]
  | .pattern field text => [.pattern field text]
  | .presence field => [.presence field]

def allParts : List Query → List Query
  | [] => []
  | query :: rest => query.parts ++ allParts rest

end

/-- What the engine asks of a clause by itself.  Scored queries are not among
the clauses that conditions are compiled to. -/
def WellFormed : Query → Prop
  | .bool _ => True
  | .terms _ values =>
    values ≠ [] ∧ ∀ value ∈ values,
      (∃ s, value = .str s) ∨ (∃ n, value = .num n) ∨ ∃ b, value = .bool b
  | .range clause =>
    (clause.lower ≠ none ∨ clause.upper ≠ none) ∧
      clause.lower ≠ some .null ∧ clause.upper ≠ some .null
  | .phrase _ _ => True
  | .start _ text => text ≠ ""
  | .pattern _ text => text ≠ ""
  | .presence field => field ≠ ""
  | .scored _ _ => False

/-- A range with a date format or a time zone. -/
def isDated : Query → Bool
  | .range clause => clause.format.isSome || clause.timeZone.isSome
  | _ => false

/-- All clauses of the query are well formed, and none is about dates. -/
def Plain (query : Query) : Prop :=
  ∀ clause ∈ query.parts, clause.WellFormed ∧ clause.isDated = false

theorem allParts_eq_flatMap (queries : List Query) : allParts queries = queries.flatMap parts := by
  induction queries with
  | nil => rfl
  | cons query rest ih => rw [allParts, ih, List.flatMap_cons]

theorem parts_bool (query : BoolQuery) :
    (Query.bool query).parts =
      .bool query :: (query.must.flatMap parts ++
        (query.should.flatMap parts ++ query.mustNot.flatMap parts)) := by
  rcases query with ⟨must, should, mustNot, minimum⟩
  simp only [parts, allParts_eq_flatMap]

/-- A combination is plain when the clauses in its buckets are. -/
theorem plain_bool : Combines Plain := by
  intro query each part among
  rw [parts_bool, List.mem_cons, List.mem_append, List.mem_append] at among
  rcases among with rfl | must | should | mustNot
  · exact ⟨trivial, rfl⟩
  · rcases List.mem_flatMap.mp must with ⟨clause, member, inside⟩
    exact each .must clause member part inside
  · rcases List.mem_flatMap.mp should with ⟨clause, member, inside⟩
    exact each .should clause member part inside
  · rcases List.mem_flatMap.mp mustNot with ⟨clause, member, inside⟩
    exact each .mustNot clause member part inside

/-- A clause with no other clause inside is plain by itself. -/
theorem plain_of_parts_eq {query : Query} (atomic : query.parts = [query])
    (formed : query.WellFormed) (undated : query.isDated = false) : query.Plain := by
  intro part among
  rw [atomic, List.mem_singleton] at among
  rw [among]
  exact ⟨formed, undated⟩

theorem filter_isDated_flatMap_parts {queries : List Query}
    (plain : ∀ query ∈ queries, query.Plain) :
    (queries.flatMap parts).filter isDated = [] := by
  rw [List.filter_eq_nil_iff]
  intro part among
  rcases List.mem_flatMap.mp among with ⟨query, member, inside⟩
  rw [(plain query member part inside).2]
  exact Bool.false_ne_true

end Query

/-! ## The clauses of leaves -/

/-- A scalar is written as a string, a number or a truth value. -/
theorem Scalar.toJson_cases (scalar : Scalar) :
    (∃ s, scalar.toJson = .str s) ∨ (∃ n, scalar.toJson = .num n) ∨
      ∃ b, scalar.toJson = .bool b := by
  cases scalar with
  | text s => exact Or.inl ⟨s, rfl⟩
  | number n => exact Or.inr (Or.inl ⟨n, rfl⟩)
  | truth b => exact Or.inr (Or.inr ⟨b, rfl⟩)

theorem Bound.map_value_ne_null (bound : Option Bound) : bound.map Bound.value ≠ some .null := by
  intro null
  rcases Option.map_eq_some_iff.mp null with ⟨held, -, value⟩
  exact held.value_ne_null value

namespace Leaf

theorem rangeClause_plain (field : String) (entry : RangeEntry) :
    ∀ clause ∈ rangeClause field entry, clause.Plain := by
  intro clause made
  cases entry with
  | unset => cases made
  | ignored => cases made
  | bounds bounds =>
      rw [rangeClause] at made
      split at made
      · cases made
      · next bounded =>
          cases made
          refine Query.plain_of_parts_eq rfl ⟨?_, ?_, ?_⟩ rfl
          · cases lower : bounds.lower <;> cases upper : bounds.upper <;>
              simp_all [Bounds.isUnbounded]
          · exact Bound.map_value_ne_null bounds.lower
          · exact Bound.map_value_ne_null bounds.upper

theorem mem_filterMap_unless {β γ : Type} {items : List β} {skipped : β → Prop}
    [DecidablePred skipped] {make : β → γ} {made : γ}
    (member : made ∈ items.filterMap fun item => if skipped item then none else some (make item)) :
    ∃ item ∈ items, ¬ skipped item ∧ made = make item := by
  rcases List.mem_filterMap.mp member with ⟨item, among, kept⟩
  split at kept
  · cases kept
  · next tested => exact ⟨item, among, tested, (Option.some.inj kept).symm⟩

/-- A leaf is compiled to plain clauses only: the entries that would give
another one are left out. -/
theorem clauses_plain (leaf : Leaf) : ∀ clause ∈ leaf.clauses, clause.Plain := by
  intro clause member
  cases leaf with
  | terms fields =>
      rcases mem_filterMap_unless member with ⟨⟨field, values⟩, -, filled, rfl⟩
      refine Query.plain_of_parts_eq rfl ⟨?_, ?_⟩ rfl
      · simpa using filled
      · intro value among
        rcases List.mem_map.mp among with ⟨scalar, -, rfl⟩
        exact scalar.toJson_cases
  | range fields =>
      rcases List.mem_filterMap.mp member with ⟨⟨field, entry⟩, -, made⟩
      exact rangeClause_plain field entry clause made
  | phrase fields =>
      rcases mem_filterMap_unless member with ⟨⟨field, phrases⟩, -, -, rfl⟩
      apply Query.plain_bool.phraseAlternatives
      intro field text
      exact Query.plain_of_parts_eq rfl trivial rfl
  | start fields =>
      rcases mem_filterMap_unless member with ⟨entry, -, filled, rfl⟩
      exact Query.plain_of_parts_eq rfl filled rfl
  | pattern fields =>
      rcases mem_filterMap_unless member with ⟨entry, -, filled, rfl⟩
      exact Query.plain_of_parts_eq rfl filled rfl
  | presence fields =>
      rcases mem_filterMap_unless member with ⟨field, -, filled, rfl⟩
      exact Query.plain_of_parts_eq rfl filled rfl

end Leaf

namespace Condition

theorem clauses_plain : (condition : Condition) → ∀ clause ∈ condition.clauses, clause.Plain
  | .leaf _ test => by
      rw [clauses]
      exact test.clauses_plain
  | .group _ children => Query.plain_bool.group fun child _ => clauses_plain child

theorem bucket_gather_plain (conditions : List Condition) (logic : Logic) :
    ∀ clause ∈ (gather conditions).bucket logic, clause.Plain :=
  forall_mem_bucket_gather fun condition _ => clauses_plain condition

end Condition

/-! ## Whole queries -/

namespace Compiler

theorem dateClause_wellFormed (compiler : Compiler) (window : DateWindow) (zone : String) :
    (compiler.dateClause window zone).WellFormed := by
  refine ⟨Or.inl ?_, ?_, ?_⟩ <;> simp

theorem dateClauses_eq (compiler : Compiler) (window : DateWindow) (zone : String) :
    compiler.dateClauses window zone =
      if window.field ≠ "" ∧ window.start ≠ "" ∧ window.stop ≠ "" then
        [compiler.dateClause window zone] else [] := by
  simp only [dateClauses, DateWindow.isSet, Bool.and_eq_true, decide_eq_true_eq, and_assoc]

/-- All clauses of a compiled query: the root, the dates, and what the
conditions are compiled to. -/
theorem parts_compile (compiler : Compiler) (conditions : List Condition) (window : DateWindow)
    (zone : Option String) (localZone : String) :
    ∃ rest : List Query, (∀ clause ∈ rest, clause.Plain) ∧
      (Query.bool (compiler.compile conditions window zone localZone)).parts =
        .bool (compiler.compile conditions window zone localZone) ::
          (compiler.dateClauses window (effectiveZone zone localZone) ++
            rest.flatMap Query.parts) := by
  have must := bucket_compile compiler conditions window zone localZone .must
  have should := bucket_compile compiler conditions window zone localZone .should
  have mustNot := bucket_compile compiler conditions window zone localZone .mustNot
  have atomic : (compiler.dateClauses window (effectiveZone zone localZone)).flatMap Query.parts =
      compiler.dateClauses window (effectiveZone zone localZone) := by
    unfold dateClauses
    split <;> rfl
  simp only [Buckets.bucket, reduceCtorEq, ↓reduceIte, List.nil_append] at must should mustNot
  refine ⟨(Condition.gather conditions).must ++ ((Condition.gather conditions).should ++
    (Condition.gather conditions).mustNot), ?_, ?_⟩
  · intro clause member
    rcases List.mem_append.mp member with first | later
    · exact Condition.bucket_gather_plain conditions .must clause first
    · rcases List.mem_append.mp later with second | third
      · exact Condition.bucket_gather_plain conditions .should clause second
      · exact Condition.bucket_gather_plain conditions .mustNot clause third
  · rw [Query.parts_bool, must, should, mustNot, List.flatMap_append, atomic]
    simp only [List.flatMap_append, List.append_assoc]

/-- Every clause of a compiled query is well formed, at any depth.  The only
one with a date format or a time zone is that of the window of dates: it is
there when no part of the window is empty, and then it stands first in `must`. -/
theorem compile_wellFormed (compiler : Compiler) (conditions : List Condition)
    (window : DateWindow) (zone : Option String) (localZone : String) :
    let query := compiler.compile conditions window zone localZone
    let dates := compiler.dateClause window (effectiveZone zone localZone)
    (∀ clause ∈ (Query.bool query).parts, clause.WellFormed) ∧
      (Query.bool query).parts.filter Query.isDated =
        (if window.field ≠ "" ∧ window.start ≠ "" ∧ window.stop ≠ "" then [dates] else []) ∧
      (query.must.head? = some dates ↔
        window.field ≠ "" ∧ window.start ≠ "" ∧ window.stop ≠ "") := by
  intro query dates
  have parts := parts_compile compiler conditions window zone localZone
  rcases parts with ⟨rest, plain, parts⟩
  have must : query.must = compiler.dateClauses window (effectiveZone zone localZone) ++
      (Condition.gather conditions).must :=
    bucket_compile compiler conditions window zone localZone .must
  rw [parts, must, dateClauses_eq]
  refine ⟨?_, ?_, ?_⟩
  · intro clause among
    rw [List.mem_cons, List.mem_append] at among
    rcases among with rfl | dated | inside
    · trivial
    · split at dated
      · rw [List.mem_singleton.mp dated]
        exact dateClause_wellFormed compiler window _
      · cases dated
    · rcases List.mem_flatMap.mp inside with ⟨part, member, inside⟩
      exact (plain part member clause inside).1
  · rw [List.filter_cons_of_neg Bool.false_ne_true, List.filter_append,
      Query.filter_isDated_flatMap_parts plain, List.append_nil]
    split <;> rfl
  · constructor
    · intro first
      apply Decidable.byContradiction
      intro idle
      rw [if_neg idle, List.nil_append] at first
      -- the clause of a condition has no format, so it is not that of the dates
      have undated := Condition.bucket_gather_plain conditions .must dates
        (List.mem_of_head? first) dates List.mem_cons_self
      exact Bool.noConfusion undated.2
    · intro effective
      rw [if_pos effective]
      rfl

end Compiler

end CriteriaSearch
