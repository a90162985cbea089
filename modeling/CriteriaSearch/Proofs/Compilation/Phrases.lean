import CriteriaSearch.Proofs.Compilation.Nesting
import Mathlib.Data.List.Forall2

namespace CriteriaSearch

/-!
# What phrase values ask for

A phrase value with plus signs is a list of words.  The words are what stands
between the signs, without white space around it, and a word behind a minus is
excluded while all others are required.  No word is lost and none is made up,
and a plus sign between two values puts their words together.

A value without plus signs is taken as it stands, and its minus counts only if
nothing stands in front of it.  Such a value is left out if it is blank.
-/

/-! ## Words with and without a minus -/

/-- The text of a phrase clause for a field. -/
def phraseOf (field : String) (text : List Char) : Query :=
  .phrase field (String.ofList text)

/-- What a word excludes, if it starts with a minus. -/
def negated? : List Char → Option (List Char)
  | '-' :: text => some text
  | _ => none

theorem negated?_eq_some_iff {word text : List Char} :
    negated? word = some text ↔ word = '-' :: text := by
  unfold negated?
  split
  · simp
  · next plain =>
    refine iff_of_false nofun fun same => plain text same

theorem negated?_eq_none_iff {word : List Char} :
    negated? word = none ↔ word.head? ≠ some '-' := by
  cases word with
  | nil => simp [negated?]
  | cons c rest =>
      by_cases minus : c = '-'
      · simp [negated?, minus]
      · simp [negated?, minus]

theorem phraseWord_of_negated? {word text : List Char} (sign : negated? word = some text)
    (field : String) : phraseWord field word = (.mustNot, phraseOf field text) := by
  rw [negated?_eq_some_iff.mp sign]
  rfl

theorem phraseWord_of_unsigned {word : List Char} (sign : negated? word = none)
    (field : String) : phraseWord field word = (.must, phraseOf field word) := by
  unfold phraseWord
  split
  · cases sign
  · rfl

/-- The words are divided into those that are required and those that are
excluded, each of which follows a minus. -/
structure Divided (words required excluded : List (List Char)) : Prop where
  /-- No word is lost and none is made up. -/
  together : (required ++ excluded.map ('-' :: ·)).Perm words
  required_sublist : required.Sublist words
  excluded_sublist : (excluded.map ('-' :: ·)).Sublist words
  unsigned : ∀ text ∈ required, text.head? ≠ some '-'

theorem divided_negated? (words : List (List Char)) :
    Divided words (words.filter fun word => (negated? word).isNone) (words.filterMap negated?) := by
  have excluded : (words.filterMap negated?).map ('-' :: ·) =
      words.filter fun word => !(negated? word).isNone := by
    induction words with
    | nil => rfl
    | cons word rest ih =>
        cases sign : negated? word with
        | none => simpa [sign] using ih
        | some text =>
            rw [List.filterMap_cons_some sign, List.filter_cons_of_pos (by simp [sign]), ← ih,
              List.map_cons, ← negated?_eq_some_iff.mp sign]
  refine ⟨?_, List.filter_sublist, ?_, ?_⟩
  · rw [excluded]
    exact List.filter_append_perm _ words
  · rw [excluded]
    exact List.filter_sublist
  · intro text member
    have plain := (List.mem_filter.mp member).2
    exact negated?_eq_none_iff.mp (Option.isNone_iff_eq_none.mp plain)

/-- The combination of words asks for each of them by its sign. -/
theorem phraseWords_eq (field : String) (words : List (List Char)) :
    phraseWords field words = {
      must := (words.filter fun word => (negated? word).isNone).map (phraseOf field)
      mustNot := (words.filterMap negated?).map (phraseOf field) } := by
  apply Buckets.ext_bucket
  · intro logic
    rw [phraseWords, Buckets.bucket_pushAll]
    induction words with
    | nil => cases logic <;> rfl
    | cons word rest ih =>
        cases sign : negated? word with
        | none =>
            rw [List.map_cons, phraseWord_of_unsigned sign]
            cases logic <;> simpa [Buckets.bucket, sign] using ih
        | some text =>
            rw [List.map_cons, phraseWord_of_negated? sign]
            cases logic <;> simpa [Buckets.bucket, sign] using ih
  · exact Buckets.minimumShouldMatch_pushAll _ _

/-! ## Values -/

theorem phraseKept_eq (phrase : List Char) :
    phraseKept phrase =
      ((Text.pieces '+' phrase).filter fun part => !Text.isBlank part).map Text.trim := by
  rw [phraseKept, List.filter_map]
  congr 2
  funext part
  have blank := Text.trim_eq_nil_iff part
  rw [← List.isEmpty_iff] at blank
  simp only [Function.comp_apply, Bool.eq_iff_iff.mpr blank]

theorem phraseKept_append (front back : List Char) :
    phraseKept (front ++ '+' :: back) = phraseKept front ++ phraseKept back := by
  rw [phraseKept, Text.pieces_append, List.map_append, List.filter_append]
  rfl

theorem not_mem_of_mem_phraseKept {phrase word : List Char} (member : word ∈ phraseKept phrase) :
    '+' ∉ word := by
  rw [phraseKept_eq] at member
  rcases List.mem_map.mp member with ⟨part, kept, rfl⟩
  intro inside
  exact Text.not_mem_of_mem_pieces (List.mem_filter.mp kept).1
    ((Text.trim_sublist part).subset inside)

theorem phraseClause_of_negated? {value text : List Char} (single : '+' ∉ value)
    (sign : negated? value = some text) (field : String) :
    phraseClause field value = some (.bool { mustNot := [phraseOf field text] }) := by
  simp only [phraseClause, Text.pieces_of_not_mem single, phraseWord_of_negated? sign]
  rw [negated?_eq_some_iff.mp sign]
  rfl

theorem phraseClause_of_unsigned {value : List Char} (single : '+' ∉ value)
    (sign : negated? value = none) (field : String) :
    phraseClause field value =
      if Text.isBlank value then none else some (phraseOf field value) := by
  simp only [phraseClause, Text.pieces_of_not_mem single, phraseWord_of_unsigned sign]

/-- What a phrase value asks for. -/
inductive Asks (field : String) (value : List Char) : Query → Prop where
  /-- A value with plus signs asks for all of its words at once. -/
  | words {parts required excluded : List (List Char)} (several : '+' ∈ value)
      (parted : Text.FallsInto '+' value parts)
      (divided : Divided ((parts.filter fun part => !Text.isBlank part).map Text.trim)
        required excluded)
      (apart : ∀ text ∈ required ++ excluded, '+' ∉ text) :
      Asks field value (.bool {
        must := required.map (phraseOf field)
        mustNot := excluded.map (phraseOf field) })
  /-- Any other value is taken as it stands. -/
  | whole (single : '+' ∉ value) (unsigned : value.head? ≠ some '-') :
      Asks field value (phraseOf field value)
  | negated {text : List Char} (single : '+' ∉ value) (sign : value = '-' :: text) :
      Asks field value (.bool { mustNot := [phraseOf field text] })

/-- A phrase value is left out if it has no plus sign and is blank. -/
theorem phraseClause_isSome_iff {field : String} {value : List Char} :
    (phraseClause field value).isSome = true ↔ '+' ∈ value ∨ Text.isBlank value = false := by
  by_cases several : '+' ∈ value
  · simp [phraseClause_of_mem several, several]
  · rcases phraseClause_of_not_mem several field with ⟨clause, made, -⟩
    rw [made]
    cases Text.isBlank value <;> simp [several]

theorem asks_of_phraseClause {field : String} {value : List Char} {clause : Query}
    (made : phraseClause field value = some clause) : Asks field value clause := by
  by_cases several : '+' ∈ value
  · rw [phraseClause_of_mem several, phraseWords_eq] at made
    cases made
    refine .words several (Text.fallsInto_pieces '+' value) ?_ ?_
    · rw [← phraseKept_eq]
      exact divided_negated? (phraseKept value)
    · intro text member
      rcases List.mem_append.mp member with required | excluded
      · exact not_mem_of_mem_phraseKept (List.mem_filter.mp required).1
      · rcases List.mem_filterMap.mp excluded with ⟨word, kept, sign⟩
        intro inside
        rw [negated?_eq_some_iff.mp sign] at kept
        exact not_mem_of_mem_phraseKept kept (List.mem_cons_of_mem _ inside)
  · cases sign : negated? value with
    | none =>
        rw [phraseClause_of_unsigned several sign] at made
        split at made
        · cases made
        · cases made
          exact .whole several (negated?_eq_none_iff.mp sign)
    | some text =>
        rw [phraseClause_of_negated? several sign] at made
        cases made
        exact .negated several (negated?_eq_some_iff.mp sign)

/-! ## The alternatives of a field -/

theorem forall₂_filterMap {β γ : Type} {R : β → γ → Prop} {f : β → Option γ}
    (related : ∀ item value, f item = some value → R item value) (items : List β) :
    List.Forall₂ R (items.filter fun item => (f item).isSome) (items.filterMap f) := by
  induction items with
  | nil => exact .nil
  | cons item rest ih =>
      cases made : f item with
      | none => simpa [made] using ih
      | some value =>
          rw [List.filterMap_cons_some made, List.filter_cons_of_pos (by simp [made])]
          exact .cons (related item value made) ih

theorem should_phraseAlternatives_of_mem {value : String} (several : '+' ∈ value.toList)
    (field : String) :
    (phraseAlternatives field [value]).should =
      [.bool (phraseWords field (phraseKept value.toList))] := by
  simp [phraseAlternatives, phraseClause_of_mem several]

theorem bucket_phraseWords_append (field : String) (front back : List (List Char))
    (logic : Logic) :
    (phraseWords field (front ++ back)).bucket logic =
      (phraseWords field front).bucket logic ++ (phraseWords field back).bucket logic := by
  simp only [phraseWords_eq, List.filter_append, List.filterMap_append, List.map_append]
  cases logic <;> rfl

/-- A field offers one alternative for each value that is not blank or has plus
signs, in the order of the values, and each asks for what the value says.  Two
values with plus signs, put together by another one, ask for the words of the
first and then for those of the second. -/
theorem alternatives_ask_for_words (field : String) (values : List String) :
    let asked := phraseAlternatives field values
    (asked.must = [] ∧ asked.mustNot = [] ∧ asked.minimumShouldMatch = none) ∧
      List.Forall₂ (fun value clause => Asks field value.toList clause)
        (values.filter fun value => '+' ∈ value.toList ∨ Text.blank value = false)
        asked.should ∧
      ∀ front back : String, '+' ∈ front.toList → '+' ∈ back.toList →
        ∃ first later both : BoolQuery,
          (phraseAlternatives field [front]).should = [.bool first] ∧
          (phraseAlternatives field [back]).should = [.bool later] ∧
          (phraseAlternatives field [front ++ "+" ++ back]).should = [.bool both] ∧
          ∀ logic, both.bucket logic = first.bucket logic ++ later.bucket logic := by
  intro asked
  refine ⟨⟨rfl, rfl, rfl⟩, ?_, ?_⟩
  · have kept : (values.filter fun value => '+' ∈ value.toList ∨ Text.blank value = false) =
        values.filter fun value => (phraseClause field value.toList).isSome := by
      refine List.filter_congr fun value _ => ?_
      rw [Bool.eq_iff_iff, phraseClause_isSome_iff, decide_eq_true_eq, Text.blank]
    rw [kept]
    exact forall₂_filterMap (fun value clause => asks_of_phraseClause) values
  · intro front back signed signed'
    have whole : (front ++ "+" ++ back).toList = front.toList ++ '+' :: back.toList := by
      simp
    have both : '+' ∈ (front ++ "+" ++ back).toList := by
      rw [whole]
      exact List.mem_append_left _ signed
    refine ⟨_, _, _, should_phraseAlternatives_of_mem signed field,
      should_phraseAlternatives_of_mem signed' field,
      should_phraseAlternatives_of_mem both field, fun logic => ?_⟩
    rw [whole, phraseKept_append, bucket_phraseWords_append]

theorem alternatives_ask_for_words_joined :
    '+' ∈ "a+ -b".toList ∧ '+' ∈ "+ --c".toList ∧
      ∃ first later both : BoolQuery,
        (phraseAlternatives "text" ["a+ -b"]).should = [.bool first] ∧
        (phraseAlternatives "text" ["+ --c"]).should = [.bool later] ∧
        (phraseAlternatives "text" ["a+ -b" ++ "+" ++ "+ --c"]).should = [.bool both] ∧
        ∀ logic, both.bucket logic = first.bucket logic ++ later.bucket logic :=
  ⟨by decide, by decide,
    (alternatives_ask_for_words "text" []).2.2 "a+ -b" "+ --c" (by decide) (by decide)⟩

end CriteriaSearch
