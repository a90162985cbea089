import CriteriaSearch.Proofs.Compilation.Emptiness
import CriteriaSearch.Proofs.Compilation.TrailingPlus

namespace CriteriaSearch

/-!
# Phrases without a word

Blank words are dropped while their minuses are still in front of them, so a
minus that stands alone is kept as a word, and what it excludes is a phrase
without a character in it or with white space only.  This is the one way in
which a blank phrase comes into a query.  A phrase that is required is never
blank.
-/

/-- The value has a minus with nothing but white space behind it, up to the
next plus sign.  Only in a value with plus signs can white space stand in front
of the minus. -/
def BareMinus (value : List Char) : Prop :=
  ∃ part ∈ Text.pieces '+' value, ∃ space rest, part = space ++ '-' :: rest ∧
    Text.isBlank space = true ∧ Text.isBlank rest = true ∧ ('+' ∉ value → space = [])

/-- The condition holds the phrase value in some leaf. -/
inductive Condition.HasPhrase (value : String) : Condition → Prop
  | leaf {logic : Logic} {fields : FieldMap (List String)} {entry : String × List String}
      (listed : entry ∈ fields.entries) (among : value ∈ entry.2) :
      HasPhrase value (.leaf logic (.phrase fields))
  | group {logic : Logic} {children : List Condition} {child : Condition}
      (listed : child ∈ children) (inside : HasPhrase value child) :
      HasPhrase value (.group logic children)

/-! ## Phrases in clauses -/

namespace Query

/-- Every phrase in the clause, at any depth, holds something besides white
space. -/
def Says (clause : Query) : Prop :=
  ∀ field text, .phrase field text ∈ clause.parts → Text.blank text = false

theorem says_bool_iff {query : BoolQuery} :
    (Query.bool query).Says ↔ ∀ logic, ∀ clause ∈ query.bucket logic, clause.Says := by
  simp only [Says, parts_bool_eq_cons, List.mem_cons, reduceCtorEq, false_or,
    Buckets.mem_inside_iff]
  constructor
  · intro all logic clause member field text among
    exact all field text ⟨logic, clause, member, among⟩
  · rintro each field text ⟨logic, clause, member, among⟩
    exact each logic clause member field text among

theorem says_phraseOf_iff {field : String} {text : List Char} :
    (phraseOf field text).Says ↔ Text.isBlank text = false := by
  simp [Says, phraseOf, parts, Text.blank]

theorem says_excluding_iff {clause : Query} :
    (Query.bool { mustNot := [clause] }).Says ↔ clause.Says := by
  rw [says_bool_iff]
  constructor
  · intro each
    exact each .mustNot clause (List.mem_singleton_self clause)
  · intro said logic other member
    cases logic with
    | mustNot => rwa [List.mem_singleton.mp member]
    | _ => cases member

theorem says_of_parts_eq {clause : Query} (atomic : clause.parts = [clause])
    (other : ∀ field text, clause ≠ .phrase field text) : clause.Says := by
  intro field text among
  rw [atomic, List.mem_singleton] at among
  exact absurd among.symm (other field text)

end Query

/-! ## The phrases of a value -/

theorem isBlank_of_mem_phraseKept {value word : List Char} (member : word ∈ phraseKept value) :
    Text.isBlank word = false := by
  rw [phraseKept_eq] at member
  rcases List.mem_map.mp member with ⟨part, kept, rfl⟩
  rw [Text.isBlank_trim]
  simpa using (List.mem_filter.mp kept).2

theorem bareMinus_iff_of_mem {value : List Char} (several : '+' ∈ value) :
    BareMinus value ↔
      ∃ word ∈ phraseKept value, ∃ text, negated? word = some text ∧ Text.isBlank text = true := by
  rw [phraseKept_eq]
  constructor
  · rintro ⟨part, listed, space, rest, rfl, front, back, -⟩
    refine ⟨_, List.mem_map.mpr ⟨_, List.mem_filter.mpr ⟨listed, ?_⟩, rfl⟩, Text.trimEnd rest,
      negated?_trim_eq_some_iff.mpr ⟨space, rest, front, rfl, rfl⟩, ?_⟩
    · simp [Text.isBlank, isBlankChar_minus]
    · rw [Text.isBlank_trimEnd, back]
  · rintro ⟨word, member, text, sign, blank⟩
    rcases List.mem_map.mp member with ⟨part, kept, rfl⟩
    rcases negated?_trim_eq_some_iff.mp sign with ⟨space, rest, front, rfl, rfl⟩
    rw [Text.isBlank_trimEnd] at blank
    exact ⟨_, (List.mem_filter.mp kept).1, space, rest, rfl, front, blank, absurd several⟩

theorem bareMinus_iff_of_not_mem {value : List Char} (single : '+' ∉ value) :
    BareMinus value ↔ ∃ text, negated? value = some text ∧ Text.isBlank text = true := by
  simp only [negated?_eq_some_iff, BareMinus, Text.pieces_of_not_mem single, List.mem_singleton,
    exists_eq_left]
  constructor
  · rintro ⟨space, rest, rfl, -, back, front⟩
    rw [front single]
    exact ⟨rest, rfl, back⟩
  · rintro ⟨text, rfl, blank⟩
    exact ⟨[], text, rfl, rfl, blank, fun _ => rfl⟩

theorem phraseWords_says_iff (field : String) {value : List Char} :
    (Query.bool (phraseWords field (phraseKept value))).Says ↔
      ¬ ∃ word ∈ phraseKept value, ∃ text, negated? word = some text ∧
        Text.isBlank text = true := by
  rw [Query.says_bool_iff, phraseWords_eq]
  constructor
  · rintro each ⟨word, kept, text, sign, blank⟩
    have said := each .mustNot (phraseOf field text)
      (List.mem_map_of_mem (List.mem_filterMap.mpr ⟨word, kept, sign⟩))
    rw [Query.says_phraseOf_iff, blank] at said
    cases said
  · intro none logic clause member
    cases logic with
    | should => cases member
    | must =>
        rcases List.mem_map.mp member with ⟨word, kept, rfl⟩
        exact Query.says_phraseOf_iff.mpr (isBlank_of_mem_phraseKept (List.mem_filter.mp kept).1)
    | mustNot =>
        rcases List.mem_map.mp member with ⟨text, excluded, rfl⟩
        rcases List.mem_filterMap.mp excluded with ⟨word, kept, sign⟩
        rw [Query.says_phraseOf_iff, ← Bool.not_eq_true]
        exact fun blank => none ⟨word, kept, text, sign, blank⟩

theorem phraseClause_says_iff (field : String) {value : List Char} :
    (∀ clause ∈ phraseClause field value, clause.Says) ↔ ¬ BareMinus value := by
  by_cases several : '+' ∈ value
  · rw [phraseClause_of_mem several, bareMinus_iff_of_mem several, ← phraseWords_says_iff field]
    simp only [Option.mem_def, Option.some.injEq, forall_eq']
  · rw [bareMinus_iff_of_not_mem several]
    cases sign : negated? value with
    | none =>
        -- The value is required as it stands, and only if it is not blank.
        rw [phraseClause_of_unsigned several sign]
        refine iff_of_true (fun clause made => ?_) (by simp)
        split at made
        · cases made
        · next said =>
          cases made
          exact Query.says_phraseOf_iff.mpr (by simpa using said)
    | some text =>
        rw [phraseClause_of_negated? several sign]
        simp only [Option.mem_def, Option.some.injEq, forall_eq', exists_eq_left',
          Query.says_excluding_iff, Query.says_phraseOf_iff, Bool.not_eq_true]

theorem phraseAlternatives_says_iff {field : String} {values : List String} :
    (Query.bool (phraseAlternatives field values)).Says ↔
      ∀ value ∈ values, ¬ BareMinus value.toList := by
  rw [Query.says_bool_iff, forall_mem_bucket_phraseAlternatives_iff]
  simp only [phraseClause_says_iff]

/-! ## The phrases of a condition -/

namespace Condition

theorem hasPhrase_leaf_iff {value : String} {logic : Logic} {test : Leaf} :
    (leaf logic test).HasPhrase value ↔
      ∃ fields, test = .phrase fields ∧ ∃ entry ∈ fields.entries, value ∈ entry.2 := by
  constructor
  · rintro (⟨listed, among⟩ | _)
    exact ⟨_, rfl, _, listed, among⟩
  · rintro ⟨fields, rfl, entry, listed, among⟩
    exact .leaf listed among

theorem hasPhrase_group_iff {value : String} {logic : Logic} {children : List Condition} :
    (group logic children).HasPhrase value ↔ ∃ child ∈ children, child.HasPhrase value := by
  constructor
  · rintro (_ | ⟨listed, inside⟩)
    exact ⟨_, listed, inside⟩
  · rintro ⟨child, listed, inside⟩
    exact .group listed inside

/-- The phrases of a condition all say something exactly if none of its values
has a bare minus. -/
theorem clauses_say_iff : (condition : Condition) →
    ((∀ clause ∈ condition.clauses, clause.Says) ↔
      ∀ value, condition.HasPhrase value → ¬ BareMinus value.toList)
  | .leaf _ test => by
      rw [clauses, test.forall_mem_clauses_iff fun clause atomic _ => Query.says_of_parts_eq atomic]
      simp only [phraseAlternatives_says_iff, hasPhrase_leaf_iff]
      constructor
      · rintro each value ⟨fields, same, entry, listed, among⟩
        exact each fields same entry listed (List.ne_nil_of_mem among) value among
      · intro none fields same entry listed _ value among
        exact none value ⟨fields, same, entry, listed, among⟩
  | .group logic children => by
      have each : (∀ child ∈ children, ∀ clause ∈ child.clauses, clause.Says) ↔
          ∀ child ∈ children, ∀ value, child.HasPhrase value → ¬ BareMinus value.toList :=
        forall₂_congr fun child _ => clauses_say_iff child
      have combined : (∀ clause ∈ (group logic children).clauses, clause.Says) ↔
          ∀ child ∈ children, ∀ clause ∈ child.clauses, clause.Says := by
        cases children with
        | nil => simp [clauses]
        | cons child rest =>
            rw [clauses, List.forall_mem_singleton, Query.says_bool_iff,
              forall_mem_bucket_gather_iff]
      rw [combined, each]
      simp only [hasPhrase_group_iff]
      constructor
      · rintro none value ⟨child, listed, inside⟩
        exact none child listed value inside
      · intro none child listed value inside
        exact none value ⟨child, listed, inside⟩

theorem clauses_ne_phrase (condition : Condition) :
    ∀ clause ∈ condition.clauses, ∀ field text, clause ≠ .phrase field text := by
  cases condition with
  | leaf logic test =>
      rw [clauses, test.forall_mem_clauses_iff fun clause _ _ other => other]
      intro fields _ entry _ _ field text
      nofun
  | group logic children =>
      cases children with
      | nil => simp [clauses]
      | cons child rest => simp [clauses]

end Condition

/-! ## Phrases that are required -/

/-- No phrase that the combination requires, or offers as an alternative, is
blank. -/
def Buckets.RequiresWords (query : BoolQuery) : Prop :=
  ∀ logic ≠ .mustNot, ∀ field text, .phrase field text ∈ query.bucket logic →
    Text.blank text = false

theorem requiresWords_of_ne_phrase {query : BoolQuery}
    (other : ∀ logic, ∀ clause ∈ query.bucket logic, ∀ field text, clause ≠ .phrase field text) :
    query.RequiresWords := by
  intro logic _ field text member
  exact absurd rfl (other logic _ member field text)

theorem requiresWords_excluding (clause : Query) :
    Buckets.RequiresWords { mustNot := [clause] } := by
  intro logic required field text member
  cases logic with
  | mustNot => exact absurd rfl required
  | _ => cases member

theorem requiresWords_phraseWords (field : String) (value : List Char) :
    (phraseWords field (phraseKept value)).RequiresWords := by
  intro logic required other text member
  rw [phraseWords_eq] at member
  cases logic with
  | mustNot => exact absurd rfl required
  | should => cases member
  | must =>
      rcases List.mem_map.mp member with ⟨word, kept, same⟩
      cases same
      rw [Text.blank, String.toList_ofList]
      exact isBlank_of_mem_phraseKept (List.mem_filter.mp kept).1

theorem requiresWords_phraseAlternatives (field : String) (values : List String) :
    (phraseAlternatives field values).RequiresWords := by
  intro logic _ other text member
  cases logic with
  | must | mustNot => cases member
  | should =>
      rcases List.mem_filterMap.mp member with ⟨value, -, made⟩
      have kept := phraseClause_isSome_iff.mp (Option.isSome_of_mem made)
      cases asks_of_phraseClause made with
      | whole single _ =>
          rw [Text.blank, String.toList_ofList]
          exact kept.resolve_left single

theorem Condition.within_clauses_requiresWords : (condition : Condition) →
    ∀ clause ∈ condition.clauses, clause.Within Buckets.RequiresWords
  | .leaf _ test => by
      rw [clauses, test.within_clauses_iff requiresWords_excluding]
      intro fields _ entry _ _
      exact ⟨requiresWords_phraseAlternatives entry.1 entry.2,
        fun value _ _ => requiresWords_phraseWords entry.1 value.toList⟩
  | .group _ children => by
      rw [within_clauses_group_iff]
      intro _
      refine ⟨requiresWords_of_ne_phrase ?_, fun child _ => within_clauses_requiresWords child⟩
      exact forall_mem_bucket_gather_iff.mpr fun child _ => clauses_ne_phrase child

/-! ## Compiled queries -/

namespace Compiler

/-- The phrases of a compiled query all say something, at any depth, exactly if
no value of its conditions has a bare minus.  The phrases that are required, or
offered as alternatives, say something in any case. -/
theorem phrases_said_iff_no_bareMinus (compiler : Compiler) (conditions : List Condition)
    (window : DateWindow) (zone : Option String) (localZone : String) :
    let query := compiler.compile conditions window zone localZone
    ((∀ field text, .phrase field text ∈ (Query.bool query).parts → Text.blank text = false) ↔
        ∀ condition ∈ conditions, ∀ value, condition.HasPhrase value →
          ¬ BareMinus value.toList) ∧
      ∀ nested, .bool nested ∈ (Query.bool query).parts → ∀ logic ≠ .mustNot, ∀ field text,
        .phrase field text ∈ nested.bucket logic → Text.blank text = false := by
  intro query
  constructor
  · have said : (Query.bool query).Says ↔ _ :=
      Query.says_bool_iff.trans (forall_mem_bucket_compile_iff
        (fun _ => Query.says_of_parts_eq rfl nofun) compiler conditions window zone localZone)
    exact said.trans (forall₂_congr fun condition _ => condition.clauses_say_iff)
  · refine Query.within_bool_iff.mpr ⟨requiresWords_of_ne_phrase ?_, ?_⟩
    · refine (forall_mem_bucket_compile_iff ?_ compiler conditions window zone localZone).mpr ?_
      · exact fun range field text => nofun
      · exact fun condition _ => condition.clauses_ne_phrase
    · refine (forall_mem_bucket_compile_iff ?_ compiler conditions window zone localZone).mpr ?_
      · exact fun range => Query.within_of_parts_eq rfl nofun
      · exact fun condition _ => condition.within_clauses_requiresWords

/-- A minus without a word behind it puts a blank phrase into the query, with a
plus sign in front of it and without. -/
theorem lone_minus_excludes_blank_phrase :
    let asking (value : String) := Query.bool (compile {}
      [.leaf .must (.phrase ⟨[("text", [value])], List.pairwise_singleton _ _⟩)] {} none "UTC")
    (¬ ∀ field text, .phrase field text ∈ (asking "a+-").parts → Text.blank text = false) ∧
      ¬ ∀ field text, .phrase field text ∈ (asking "-").parts → Text.blank text = false := by
  intro asking
  have blank : Text.blank "" ≠ false := by decide
  have words : (asking "a+-").parts = [
      .bool { must := [.bool { should := [.bool {
        must := [.phrase "text" "a"], mustNot := [.phrase "text" ""] }] }] },
      .bool { should := [.bool {
        must := [.phrase "text" "a"], mustNot := [.phrase "text" ""] }] },
      .bool { must := [.phrase "text" "a"], mustNot := [.phrase "text" ""] },
      .phrase "text" "a", .phrase "text" ""] := by
    rfl
  have single : (asking "-").parts = [
      .bool { must := [.bool { should := [.bool { mustNot := [.phrase "text" ""] }] }] },
      .bool { should := [.bool { mustNot := [.phrase "text" ""] }] },
      .bool { mustNot := [.phrase "text" ""] }, .phrase "text" ""] := by
    rfl
  constructor
  · intro said
    exact blank (said "text" "" (by simp [words]))
  · intro said
    exact blank (said "text" "" (by simp [single]))

end Compiler

end CriteriaSearch
