import CriteriaSearch.Proofs.Compilation.Phrases

namespace CriteriaSearch

/-!
# A plus sign behind a phrase value

The last word of a value with a plus sign at its end is blank, so it is
dropped, and the value asks for the words that stand before it.  But it asks as
a value with plus signs does: a word is trimmed, and then its minus is looked
for.  In a value without plus signs a minus counts only in the first place.
The two ways to read a value agree unless its minus stands behind white space.
-/

/-! ## What alternatives demand -/

/-- The text of a phrase clause, without white space around it. -/
def Query.phraseText? : Query → Option (List Char)
  | .phrase _ text => some (Text.trim text.toList)
  | _ => none

/-- The phrases that an alternative requires. -/
def Query.required : Query → List (List Char)
  | .bool asked => asked.must.filterMap phraseText?
  | clause => clause.phraseText?.toList

/-- The phrases that an alternative excludes. -/
def Query.excluded : Query → List (List Char)
  | .bool asked => asked.mustNot.filterMap phraseText?
  | _ => []

/-- The alternatives require certain phrases and exclude certain others. -/
structure Demands (asked : BoolQuery) (required excluded : List (List Char)) : Prop where
  required : asked.should.flatMap Query.required = required
  excluded : asked.should.flatMap Query.excluded = excluded

theorem phraseText?_phraseOf (field : String) (text : List Char) :
    (phraseOf field text).phraseText? = some (Text.trim text) := by
  rw [phraseOf, Query.phraseText?, String.toList_ofList]

/-- What a sign asks for: the text behind a minus is excluded, and without a
minus the whole word is required. -/
theorem demands_of_single {value : String} (said : Text.blank value = false)
    (single : '+' ∉ value.toList) (field : String) :
    match negated? value.toList with
    | some text => Demands (phraseAlternatives field [value]) [] [Text.trim text]
    | none => Demands (phraseAlternatives field [value]) [Text.trim value.toList] [] := by
  have nonblank : Text.isBlank value.toList = false := said
  cases sign : negated? value.toList with
  | none =>
      have made := phraseClause_of_unsigned single sign field
      rw [nonblank, if_neg Bool.false_ne_true] at made
      have should : (phraseAlternatives field [value]).should = [phraseOf field value.toList] := by
        simp [phraseAlternatives, made]
      constructor
      · rw [should, List.flatMap_singleton]
        exact congrArg Option.toList (phraseText?_phraseOf field value.toList)
      · rw [should, List.flatMap_singleton]
        rfl
  | some text =>
      have made := phraseClause_of_negated? single sign field
      constructor <;>
        simp [phraseAlternatives, made, Query.required, Query.excluded, phraseText?_phraseOf]

theorem demands_of_trailing_plus {value : String} (said : Text.blank value = false)
    (single : '+' ∉ value.toList) (field : String) :
    match negated? (Text.trim value.toList) with
    | some text => Demands (phraseAlternatives field [value ++ "+"]) [] [Text.trim text]
    | none => Demands (phraseAlternatives field [value ++ "+"]) [Text.trim value.toList] [] := by
  have nonblank : Text.isBlank value.toList = false := said
  have whole : (value ++ "+").toList = value.toList ++ '+' :: [] := by simp
  have several : '+' ∈ (value ++ "+").toList := by simp
  have kept : phraseKept (value ++ "+").toList = [Text.trim value.toList] := by
    rw [whole, phraseKept_append, phraseKept_eq, phraseKept_eq, Text.pieces_of_not_mem single,
      Text.pieces_of_not_mem List.not_mem_nil, List.filter_cons_of_pos (by simp [nonblank])]
    rfl
  have should := should_phraseAlternatives_of_mem several field
  rw [kept, phraseWords_eq] at should
  cases sign : negated? (Text.trim value.toList) with
  | none =>
      constructor <;>
        simp [should, sign, Query.required, Query.excluded, phraseText?_phraseOf, Text.trim_trim]
  | some text =>
      constructor <;>
        simp [should, sign, Query.required, Query.excluded, phraseText?_phraseOf]

theorem isBlankChar_minus : Text.isBlankChar '-' = false := by decide

/-- Trimming brings a minus to the front if only white space is before it. -/
theorem negated?_trim_eq_some_iff {value text : List Char} :
    negated? (Text.trim value) = some text ↔
      ∃ space rest, Text.isBlank space = true ∧ value = space ++ '-' :: rest ∧
        text = Text.trimEnd rest := by
  rw [negated?_eq_some_iff]
  constructor
  · intro minus
    cases blank : Text.isBlank value with
    | true => cases minus.symm.trans ((Text.trim_eq_nil_iff value).mpr blank)
    | false =>
        rcases Text.exists_of_not_isBlank blank with
          ⟨space, c, rest, spaced, visible, rfl⟩
        rw [Text.trim_append_cons spaced visible] at minus
        cases minus
        exact ⟨space, rest, spaced, rfl, rfl⟩
  · rintro ⟨space, rest, spaced, rfl, rfl⟩
    exact Text.trim_append_cons spaced isBlankChar_minus rest

theorem negated?_of_space {space : List Char} (inhabited : space ≠ [])
    (blank : Text.isBlank space = true) (rest : List Char) : negated? (space ++ rest) = none := by
  rw [negated?_eq_none_iff]
  cases space with
  | nil => exact absurd rfl inhabited
  | cons c more =>
      intro minus
      cases minus
      cases blank

/-- The minus of a value stands behind white space. -/
def IndentedMinus (value : List Char) : Prop :=
  ∃ space text, space ≠ [] ∧ Text.isBlank space = true ∧ value = space ++ '-' :: text

/-- Trimming brings no minus to the front if none is indented. -/
theorem negated?_trim_of_not_indented {value : List Char} (plain : ¬ IndentedMinus value) :
    negated? (Text.trim value) = (negated? value).map Text.trimEnd := by
  apply Option.ext
  intro text
  rw [negated?_trim_eq_some_iff, Option.map_eq_some_iff]
  constructor
  · rintro ⟨space, rest, blank, parts, rfl⟩
    have front : space = [] :=
      Classical.byContradiction fun inhabited => plain ⟨space, rest, inhabited, blank, parts⟩
    rw [front] at parts
    exact ⟨rest, negated?_eq_some_iff.mpr parts, rfl⟩
  · rintro ⟨rest, minus, rfl⟩
    exact ⟨[], rest, rfl, negated?_eq_some_iff.mp minus, rfl⟩

theorem demands_of_indented {value : String} (said : Text.blank value = false)
    (single : '+' ∉ value.toList) (field : String) {space text : List Char}
    (inhabited : space ≠ []) (blank : Text.isBlank space = true)
    (parts : value.toList = space ++ '-' :: text) :
    Demands (phraseAlternatives field [value]) [Text.trim ('-' :: text)] [] ∧
      Demands (phraseAlternatives field [value ++ "+"]) [] [Text.trim text] := by
  have alone := demands_of_single said single field
  have followed := demands_of_trailing_plus said single field
  have unsigned : negated? value.toList = none := parts ▸ negated?_of_space inhabited blank _
  have sign : negated? (Text.trim value.toList) = some (Text.trimEnd text) :=
    negated?_trim_eq_some_iff.mpr ⟨space, text, blank, parts, rfl⟩
  simp only [unsigned] at alone
  simp only [sign, Text.trim_trimEnd] at followed
  rw [parts, Text.trim_append_cons blank isBlankChar_minus] at alone
  rw [Text.trim_cons isBlankChar_minus]
  exact ⟨alone, followed⟩

theorem exists_demands_of_not_indented {value : String} (said : Text.blank value = false)
    (single : '+' ∉ value.toList) (plain : ¬ IndentedMinus value.toList) (field : String) :
    ∃ required excluded, Demands (phraseAlternatives field [value]) required excluded ∧
      Demands (phraseAlternatives field [value ++ "+"]) required excluded := by
  have alone := demands_of_single said single field
  have followed := demands_of_trailing_plus said single field
  rw [negated?_trim_of_not_indented plain] at followed
  cases sign : negated? value.toList with
  | none =>
      simp only [sign, Option.map_none] at alone followed
      exact ⟨_, _, alone, followed⟩
  | some text =>
      simp only [sign, Option.map_some, Text.trim_trimEnd] at alone followed
      exact ⟨_, _, alone, followed⟩

/-- Behind a value that is not blank a plus sign adds no word.  It changes
nothing about what the value asks for, unless the minus stands behind white
space.  The value then requires itself, with its minus, and the value with the
plus sign excludes what is behind the minus. -/
theorem trailing_plus_agrees_iff (field value : String) (said : Text.blank value = false)
    (single : '+' ∉ value.toList) :
    let alone := phraseAlternatives field [value]
    let followed := phraseAlternatives field [value ++ "+"]
    ((∃ required excluded, Demands alone required excluded ∧ Demands followed required excluded) ↔
        ¬ IndentedMinus value.toList) ∧
      ∀ space text, space ≠ [] → Text.isBlank space = true →
        value.toList = space ++ '-' :: text →
        Demands alone [Text.trim ('-' :: text)] [] ∧ Demands followed [] [Text.trim text] := by
  intro alone followed
  refine ⟨⟨?_, fun plain => exists_demands_of_not_indented said single plain field⟩, ?_⟩
  · rintro ⟨required, excluded, first, later⟩ ⟨space, text, inhabited, blank, parts⟩
    have differ := demands_of_indented said single field inhabited blank parts
    have same := (differ.1.required.symm.trans first.required).trans
      (later.required.symm.trans differ.2.required)
    cases same
  · intro space text inhabited blank parts
    exact demands_of_indented said single field inhabited blank parts

/-- With white space on both sides the minus is found behind a plus sign only. -/
theorem trailing_plus_agrees_iff_indented :
    Text.blank " -a " = false ∧ '+' ∉ " -a ".toList ∧
      Demands (phraseAlternatives "text" [" -a "]) [['-', 'a']] [] ∧
      Demands (phraseAlternatives "text" [" -a +"]) [] [['a']] :=
  ⟨by decide, by decide,
    (trailing_plus_agrees_iff "text" " -a " (by decide) (by decide)).2 [' '] ['a', ' ']
      (by decide) (by decide) (by decide)⟩

/-- A value with a minus behind white space requires what it excludes as soon
as a plus sign follows. -/
theorem indented_minus_requires_what_it_excludes :
    Text.blank " -a" = false ∧ '+' ∉ " -a".toList ∧
      ¬ ∃ required excluded,
        Demands (phraseAlternatives "text" [" -a"]) required excluded ∧
        Demands (phraseAlternatives "text" [" -a" ++ "+"]) required excluded := by
  refine ⟨by decide, by decide, ?_⟩
  rintro ⟨required, excluded, alone, followed⟩
  have own : (phraseAlternatives "text" [" -a"]).should.flatMap Query.excluded = [] := by decide
  have other :
      (phraseAlternatives "text" [" -a" ++ "+"]).should.flatMap Query.excluded = [['a']] := by
    decide
  cases (own.symm.trans alone.excluded).trans (followed.excluded.symm.trans other)

end CriteriaSearch
