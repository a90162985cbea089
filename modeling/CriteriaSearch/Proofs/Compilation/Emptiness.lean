import CriteriaSearch.Proofs.Compilation.Nesting
import CriteriaSearch.Proofs.Query.Evaluation
import Mathlib.Logic.Basic

namespace CriteriaSearch

/-!
# Conditions with nothing to say

A leaf without anything to test and a group without conditions are idle: they
contribute no clause.  Being idle does not spread outwards.  A group whose
conditions are all idle still contributes a combination, an empty one, and so
does a field whose phrase values are blank.  An empty combination holds for
every document, so it is told exactly which conditions give rise to one.

A combination inside a compiled query never asks for a number of matches.  The
root does so if a condition of the list has the logic `should`, whether or not
that condition is idle.  Therefore one match can be asked for where no clause
is there to give it.
-/

/-! ## Idle conditions -/

/-- The leaf has nothing to test. -/
def Leaf.Idle : Leaf → Prop
  | .terms fields => ∀ entry ∈ fields.entries, entry.2 = []
  | .phrase fields => ∀ entry ∈ fields.entries, entry.2 = []
  | .range fields => ∀ entry ∈ fields.entries, ∀ bounds, entry.2 = .bounds bounds →
      bounds.lower = none ∧ bounds.upper = none
  | .start fields | .pattern fields => ∀ entry ∈ fields.entries, entry.2 = ""
  | .presence names => ∀ name ∈ names, name = ""

/-- The condition is a leaf with nothing to test or a group without
conditions. -/
def Condition.Idle : Condition → Prop
  | .leaf _ test => test.Idle
  | .group _ children => children = []

theorem filterMap_unless_eq_nil_iff {β γ : Type} {items : List β} {skipped : β → Prop}
    [DecidablePred skipped] {make : β → γ} :
    (items.filterMap fun item => if skipped item then none else some (make item)) = [] ↔
      ∀ item ∈ items, skipped item := by
  rw [List.filterMap_eq_nil_iff]
  refine forall₂_congr fun item _ => ?_
  by_cases skip : skipped item
  · exact iff_of_true (if_pos skip) skip
  · exact iff_of_false (fun none => nomatch (if_neg skip).symm.trans none) skip

theorem Leaf.rangeClause_eq_none_iff {field : String} {entry : RangeEntry} :
    rangeClause field entry = none ↔
      ∀ bounds, entry = .bounds bounds → bounds.lower = none ∧ bounds.upper = none := by
  cases entry with
  | bounds bounds =>
      have open_iff : bounds.isUnbounded = true ↔ bounds.lower = none ∧ bounds.upper = none := by
        simp [Bounds.isUnbounded]
      simp [rangeClause, open_iff]
  | unset | ignored =>
      refine iff_of_true rfl fun bounds impossible => ?_
      cases impossible

theorem Leaf.clauses_eq_nil_iff (leaf : Leaf) : leaf.clauses = [] ↔ leaf.Idle := by
  cases leaf with
  | terms fields =>
      rw [clauses, filterMap_unless_eq_nil_iff, Idle]
      simp only [List.isEmpty_iff]
  | phrase fields =>
      rw [clauses, filterMap_unless_eq_nil_iff, Idle]
      simp only [List.isEmpty_iff]
  | range fields =>
      rw [clauses, List.filterMap_eq_nil_iff, Idle]
      exact forall₂_congr fun entry _ => rangeClause_eq_none_iff
  | start fields => rw [clauses, filterMap_unless_eq_nil_iff, Idle]
  | pattern fields => rw [clauses, filterMap_unless_eq_nil_iff, Idle]
  | presence names => rw [clauses, filterMap_unless_eq_nil_iff, Idle]

namespace Condition

/-- The idle conditions are those that contribute nothing. -/
theorem clauses_eq_nil_iff (condition : Condition) : condition.clauses = [] ↔ condition.Idle := by
  cases condition with
  | leaf logic test => rw [clauses, Leaf.clauses_eq_nil_iff, Idle]
  | group logic children =>
      cases children with
      | nil => simp [clauses, Idle]
      | cons child rest => simp [clauses, Idle]

theorem bucket_gather_eq_nil_iff {conditions : List Condition} {logic : Logic} :
    (gather conditions).bucket logic = [] ↔
      ∀ condition ∈ conditions, condition.logic = logic → condition.Idle := by
  rw [bucket_gather, List.flatMap_eq_nil_iff]
  simp only [List.mem_filter, decide_eq_true_eq, and_imp, clauses_eq_nil_iff]

theorem gather_isEmpty_eq_false_iff {conditions : List Condition} :
    (gather conditions).isEmpty = false ↔ ∃ condition ∈ conditions, ¬ condition.Idle := by
  rw [Buckets.isEmpty_eq_false_iff]
  simp only [ne_eq, bucket_gather_eq_nil_iff, not_forall]
  constructor
  · rintro ⟨_, condition, listed, -, heard⟩
    exact ⟨condition, listed, heard⟩
  · rintro ⟨condition, listed, heard⟩
    exact ⟨condition.logic, condition, listed, rfl, heard⟩

end Condition

/-! ## Conditions that lead to no empty combination -/

/-- The phrase value has no word: it is made of plus signs and white space. -/
def Wordless (phrase : List Char) : Prop :=
  ∀ c ∈ phrase, c = '+' ∨ Text.isBlankChar c = true

namespace Condition

/-- Everything that is said in the condition has a meaning.  Of a field with
phrase values, some value has a word, and so has every value with plus signs.
Of a group, some condition is not idle. -/
inductive Substantial : Condition → Prop
  | leaf {logic : Logic} {test : Leaf}
      (phrases : ∀ fields, test = .phrase fields → ∀ entry ∈ fields.entries, entry.2 ≠ [] →
        (∃ phrase ∈ entry.2, ¬ Wordless phrase.toList) ∧
          ∀ phrase ∈ entry.2, '+' ∈ phrase.toList → ¬ Wordless phrase.toList) :
      Substantial (.leaf logic test)
  | childless {logic : Logic} : Substantial (.group logic [])
  | group {logic : Logic} {children : List Condition} (heard : ∃ child ∈ children, ¬ child.Idle)
      (each : ∀ child ∈ children, Substantial child) : Substantial (.group logic children)

end Condition

/-- The pieces of a text hold all of its characters but the separators. -/
theorem Text.flatten_pieces (separator : Char) (cs : List Char) :
    (pieces separator cs).flatten = cs.filter (· ≠ separator) := by
  induction cs with
  | nil => rfl
  | cons c rest ih =>
      rw [pieces, List.flatten_cons] at ih ⊢
      by_cases same : c = separator
      · rw [List.filter_cons_of_neg (by simpa using same), ← ih]
        simp [cut, same]
      · rw [List.filter_cons_of_pos (by simpa using same), ← ih]
        simp [cut, same]

theorem phraseKept_eq_nil_iff {phrase : List Char} : phraseKept phrase = [] ↔ Wordless phrase := by
  have blank : phraseKept phrase = [] ↔
      ∀ piece ∈ Text.pieces '+' phrase, ∀ c ∈ piece, Text.isBlankChar c = true := by
    simp only [phraseKept, List.filter_eq_nil_iff, List.forall_mem_map, Bool.not_eq_true',
      Bool.not_eq_false, List.isEmpty_iff, Text.trim_eq_nil_iff, Text.isBlank, List.all_eq_true]
  rw [blank, ← List.forall_mem_flatten, Text.flatten_pieces, Wordless]
  simp only [List.mem_filter, decide_eq_true_eq, and_imp]
  exact forall₂_congr fun c _ => or_iff_not_imp_left.symm

theorem phraseWords_isEmpty_iff {field : String} {words : List (List Char)} :
    (phraseWords field words).isEmpty = true ↔ words = [] := by
  rw [Buckets.isEmpty_iff]
  constructor
  · intro empty
    cases words with
    | nil => rfl
    | cons word rest =>
        have own := empty (phraseWord field word).1
        rw [phraseWords, Buckets.bucket_pushAll, List.map_cons] at own
        simp at own
  · rintro rfl logic
    cases logic <;> rfl

theorem phraseClause_eq_none_iff {field : String} {phrase : List Char} :
    phraseClause field phrase = none ↔ '+' ∉ phrase ∧ Wordless phrase := by
  by_cases signed : '+' ∈ phrase
  · rw [phraseClause_of_mem signed]
    exact iff_of_false nofun fun unsigned => unsigned.1 signed
  · rcases phraseClause_of_not_mem signed field with ⟨clause, made, -⟩
    have blank : Text.isBlank phrase = true ↔ Wordless phrase := by
      rw [Text.isBlank, List.all_eq_true, Wordless]
      refine forall₂_congr fun c listed => (or_iff_right ?_).symm
      rintro rfl
      exact signed listed
    rw [made, ← blank]
    simp [signed]

theorem phraseAlternatives_isEmpty_eq_false_iff {field : String} {phrases : List String} :
    (phraseAlternatives field phrases).isEmpty = false ↔
      ∃ phrase ∈ phrases, '+' ∈ phrase.toList ∨ ¬ Wordless phrase.toList := by
  have empty : (phraseAlternatives field phrases).isEmpty = true ↔
      ∀ phrase ∈ phrases, phraseClause field phrase.toList = none := by
    rw [← List.filterMap_eq_nil_iff, ← List.isEmpty_iff]
    simp [phraseAlternatives, Buckets.isEmpty]
  rw [← Bool.not_eq_true, empty]
  simp only [phraseClause_eq_none_iff, not_forall, not_and_or, not_not, exists_prop]

namespace Condition

/-- The combinations in the clauses of a condition all have a clause exactly if
the condition is substantial. -/
theorem within_clauses_nonempty_iff : (condition : Condition) →
    ((∀ clause ∈ condition.clauses, clause.Within (·.isEmpty = false)) ↔ condition.Substantial)
  | .leaf _ test => by
      have phrases : (∀ clause ∈ test.clauses, clause.Within (·.isEmpty = false)) ↔ _ :=
        test.within_clauses_iff (P := (·.isEmpty = false)) fun _ => rfl
      rw [clauses, phrases]
      simp only [← Bool.not_eq_true (phraseWords _ _).isEmpty, phraseWords_isEmpty_iff,
        phraseKept_eq_nil_iff, phraseAlternatives_isEmpty_eq_false_iff]
      constructor
      · intro each
        refine .leaf fun fields same entry listed filled => ?_
        rcases each fields same entry listed filled with ⟨⟨phrase, among, said⟩, signed⟩
        exact ⟨⟨phrase, among, said.elim (signed phrase among) id⟩, signed⟩
      · rintro ⟨substantial⟩ fields same entry listed filled
        rcases substantial fields same entry listed filled with ⟨⟨phrase, among, heard⟩, signed⟩
        exact ⟨⟨phrase, among, Or.inr heard⟩, signed⟩
  | .group _ children => by
      have each : (∀ child ∈ children, ∀ clause ∈ child.clauses,
          clause.Within (·.isEmpty = false)) ↔ ∀ child ∈ children, child.Substantial :=
        forall₂_congr fun child _ => within_clauses_nonempty_iff child
      rw [within_clauses_group_iff, each, gather_isEmpty_eq_false_iff]
      constructor
      · intro inhabited
        by_cases childless : children = []
        · exact childless ▸ .childless
        · exact .group (inhabited childless).1 (inhabited childless).2
      · intro substantial inhabited
        cases substantial with
        | childless => exact absurd rfl inhabited
        | group heard each => exact ⟨heard, each⟩

/-- No combination in the clauses of a condition asks for a number of
matches. -/
theorem within_clauses_unwritten : (condition : Condition) →
    ∀ clause ∈ condition.clauses, clause.Within (·.minimumShouldMatch = none)
  | .leaf _ test => by
      rw [clauses, test.within_clauses_iff (P := (·.minimumShouldMatch = none)) fun _ => rfl]
      intro fields _ entry _ _
      exact ⟨rfl, fun phrase _ _ => Buckets.minimumShouldMatch_pushAll _ _⟩
  | .group _ children => by
      rw [within_clauses_group_iff]
      intro _
      exact ⟨minimumShouldMatch_gather children, fun child _ => within_clauses_unwritten child⟩

end Condition

/-! ## Compiled queries -/

/-- The source of a combination says nothing exactly if there is nothing in the
combination. -/
theorem Buckets.source_eq_empty_iff {query : BoolQuery} :
    query.source = .obj [("bool", .obj [])] ↔
      query.isEmpty = true ∧ query.minimumShouldMatch = none := by
  have unwritten (name : String) (queries : List Query) :
      Query.bucketMember name (Query.sources queries) = [] ↔ queries = [] := by
    rcases queries with _ | ⟨first, _ | ⟨second, rest⟩⟩ <;>
      simp [Query.sources, Query.bucketMember]
  rcases query with ⟨must, should, mustNot, minimum⟩
  simp only [source, Query.source, Json.obj.injEq, List.cons.injEq, Prod.mk.injEq, true_and,
    and_true, List.append_eq_nil_iff, unwritten, isEmpty, Bool.and_eq_true, List.isEmpty_iff]
  cases minimum with
  | none => simp [and_right_comm]
  | some text => simp

namespace Compiler

theorem forall_mem_bucket_compile_iff {P : Query → Prop} (ranges : ∀ range, P (.range range))
    (compiler : Compiler) (conditions : List Condition) (window : DateWindow)
    (zone : Option String) (localZone : String) :
    (∀ logic, ∀ clause ∈ (compiler.compile conditions window zone localZone).bucket logic,
        P clause) ↔
      ∀ condition ∈ conditions, ∀ clause ∈ condition.clauses, P clause := by
  have dates : ∀ clause ∈ compiler.dateClauses window (effectiveZone zone localZone),
      P clause := by
    intro clause member
    unfold dateClauses at member
    split at member
    · rw [List.mem_singleton.mp member]
      exact ranges _
    · cases member
  rw [← Condition.forall_mem_bucket_gather_iff]
  refine forall_congr' fun logic => ?_
  rw [bucket_compile, List.forall_mem_append, and_iff_right]
  split
  · exact dates
  · exact List.forall_mem_nil _

/-- The combinations inside a compiled query are those in the clauses of its
conditions, whatever the dates are. -/
theorem forall_bool_mem_inside_compile_iff {P : BoolQuery → Prop} (compiler : Compiler)
    (conditions : List Condition) (window : DateWindow) (zone : Option String)
    (localZone : String) :
    (∀ nested, .bool nested ∈ (compiler.compile conditions window zone localZone).inside →
        P nested) ↔
      ∀ condition ∈ conditions, ∀ clause ∈ condition.clauses, clause.Within P :=
  Buckets.forall_bool_mem_inside_iff.trans (forall_mem_bucket_compile_iff
    (fun _ => Query.within_of_parts_eq rfl nofun) compiler conditions window zone localZone)

/-- No combination inside a compiled query is empty exactly if all conditions
of the list are substantial.  What contributes no clause at all are the idle
conditions; every condition pushes the clauses that it contributes. -/
theorem nested_nonempty_iff_substantial (compiler : Compiler) (conditions : List Condition)
    (window : DateWindow) (zone : Option String) (localZone : String) :
    ((∀ nested, .bool nested ∈ (compiler.compile conditions window zone localZone).inside →
        nested.isEmpty = false) ↔ ∀ condition ∈ conditions, condition.Substantial) ∧
      ∀ condition : Condition, (condition.clauses = [] ↔ condition.Idle) ∧
        ∀ query,
          condition.addTo query = query.pushAll (condition.clauses.map (condition.logic, ·)) := by
  constructor
  · rw [forall_bool_mem_inside_compile_iff]
    exact forall₂_congr fun condition _ => condition.within_clauses_nonempty_iff
  · intro condition
    exact ⟨condition.clauses_eq_nil_iff, fun query => condition.addTo_eq query⟩

/-- A group around a field without values excludes every document, and a
phrase value of plus signs and white space leads to an empty combination as
well. -/
theorem idle_group_excludes_everything :
    let idle := Condition.leaf .must (.terms ⟨[("status", [])], List.pairwise_singleton _ _⟩)
    let excluding := compile {} [.group .mustNot [idle]] {} none "UTC"
    let phrase := Condition.leaf .must
      (.phrase ⟨[("text", [" + "])], List.pairwise_singleton _ _⟩)
    let asking := compile {} [phrase] {} none "UTC"
    idle.clauses = [] ∧
      ¬ (∀ nested, .bool nested ∈ excluding.inside → nested.isEmpty = false) ∧
      (∀ valuation, (Query.bool excluding).holds valuation = false) ∧
      ¬ ∀ nested, .bool nested ∈ asking.inside → nested.isEmpty = false := by
  intro idle excluding phrase asking
  have excluded : excluding = { mustNot := [.bool {}] } := by rfl
  have asked : asking = { must := [.bool { should := [.bool {}] }] } := by rfl
  refine ⟨by rfl, fun all => ?_, fun valuation => ?_, fun all => ?_⟩
  · have empty := all {} (excluded ▸ List.mem_cons_self)
    cases empty
  · rw [excluded]
    rfl
  · have empty := all {} (asked ▸ List.mem_cons_of_mem _ List.mem_cons_self)
    cases empty

/-- One match is asked for as soon as a condition of the list has the logic
`should`, and then also where nothing can match: that is so if all conditions
with this logic are idle.  Nothing is asked for inside.  The query says nothing
at all if it is empty and no condition has that logic. -/
theorem minimum_goes_with_should_conditions (compiler : Compiler) (conditions : List Condition)
    (window : DateWindow) (zone : Option String) (localZone : String) :
    let query := compiler.compile conditions window zone localZone
    (query.minimumShouldMatch =
        if ∃ condition ∈ conditions, condition.logic = .should then some "1" else none) ∧
      (query.should ≠ [] → query.minimumShouldMatch = some "1") ∧
      (query.minimumShouldMatch = some "1" ∧ query.should = [] ↔
        (∃ condition ∈ conditions, condition.logic = .should) ∧
          ∀ condition ∈ conditions, condition.logic = .should → condition.Idle) ∧
      (∀ nested, .bool nested ∈ query.inside → nested.minimumShouldMatch = none) ∧
      (query.source = .obj [("bool", .obj [])] ↔
        query.isEmpty = true ∧ ∀ condition ∈ conditions, condition.logic ≠ .should) := by
  intro query
  have minimum : query.minimumShouldMatch =
      if ∃ condition ∈ conditions, condition.logic = .should then some "1" else none := by
    rw [minimumShouldMatch_compile]
    simp only [List.any_eq_true, decide_eq_true_eq]
  have should : query.should = [] ↔
      ∀ condition ∈ conditions, condition.logic = .should → condition.Idle := by
    rw [← Condition.bucket_gather_eq_nil_iff]
    exact Eq.congr_left (bucket_compile compiler conditions window zone localZone .should)
  refine ⟨minimum, ?_, ?_, ?_, ?_⟩
  · intro inhabited
    rw [minimum, if_pos]
    refine Classical.byContradiction fun unasked => inhabited (should.mpr ?_)
    exact fun condition listed own => absurd ⟨condition, listed, own⟩ unasked
  · rw [minimum, should]
    simp
  · rw [forall_bool_mem_inside_compile_iff]
    exact fun condition _ => condition.within_clauses_unwritten
  · rw [Buckets.source_eq_empty_iff, minimum]
    simp

/-- A condition with the logic `should` and nothing to test asks for a match
that no clause can give.  The query is empty and yet it says something. -/
theorem idle_should_asks_for_a_match :
    let idle := Condition.leaf .should (.terms ⟨[("status", [])], List.pairwise_singleton _ _⟩)
    let query := compile {} [idle] {} none "UTC"
    ¬ (query.minimumShouldMatch = some "1" ↔ query.should ≠ []) ∧
      ¬ (query.isEmpty = true → query.source = .obj [("bool", .obj [])]) ∧
      ∀ valuation, (Query.bool query).holds valuation = false := by
  intro idle query
  have built : query = { minimumShouldMatch := some "1" } := by rfl
  have written : query.source = .obj [("bool", .obj [("minimum_should_match", .str "1")])] := by
    rw [built]
    rfl
  refine ⟨?_, fun empty => ?_, fun valuation => ?_⟩
  · rw [built]
    simp
  · rw [written] at empty
    exact absurd (empty (by rw [built]; rfl)) (by decide)
  · rw [built]
    rfl

end Compiler

end CriteriaSearch
