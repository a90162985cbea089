import CriteriaSearch.Proofs.Condition.Decoding

namespace CriteriaSearch

/-!
# The outline of a document

A document gives each of its parts once, and each part means one thing, so a
document has one outline at most.  Whatever it is known from, the outline
decides what is decoded: the leaf that the values of the fields fill, or the
group of what is decoded from the children.
-/

theorem NormalText.unique {value : Json} {first second : String} (normal : NormalText value first)
    (also : NormalText value second) : first = second := by
  cases normal with
  | number n unsigned =>
      cases also
      rfl
  | string s =>
      cases also
      rfl

namespace Condition

open Draft (Part)

variable {value : Json}

theorem Gives.unique {parts others : Part → Option Json} (gives : Gives value parts)
    (also : Gives value others) : parts = others := by
  funext part
  cases gives with
  | object once =>
      cases also with
      | object onceAlso =>
          have heads := congrArg List.head? ((once part).symm.trans (onceAlso part))
          simpa only [Option.head?_toList] using heads
  | list least most placed =>
      cases also with
      | list _ _ placedAlso => rw [placed, placedAlso]

theorem FieldsStated.unique {found : Option Json} {first second : List (String × List Json)}
    (stated : FieldsStated found first) (also : FieldsStated found second) : first = second := by
  generalize same : found = other at also
  cases stated with
  | absent =>
      cases also with
      | absent => rfl
      | object fields => cases same
  | object fields =>
      cases also with
      | absent => cases same
      | object others =>
          have members := Json.obj.inj (Option.some.inj same)
          refine List.map_injective_iff.2 (fun one other alike => ?_) members
          exact Prod.ext (Prod.mk.inj alike).1 (Json.arr.inj (Prod.mk.inj alike).2)

theorem LogicStated.unique {found : Option Json} {first second : Logic}
    (stated : LogicStated found first) (also : LogicStated found second) : first = second := by
  cases stated with
  | code spelled =>
      cases also with
      | code spelledAlso =>
          rcases spelled with ⟨text, listed, normal⟩
          rcases spelledAlso with ⟨other, listedAlso, normalAlso⟩
          exact Logic.eq_of_mem_texts text listed (normal.unique normalAlso ▸ listedAlso)

theorem KindStated.unique {found : Option Json} {first second : Option LeafKind}
    (stated : KindStated found first) (also : KindStated found second) : first = second := by
  have unspelled {texts : List String} : ¬ SpelledBy .null texts := fun ⟨_, _, normal⟩ =>
    nomatch normal
  cases stated with
  | absent =>
      cases also
      rfl
  | null =>
      cases also with
      | null => rfl
      | code spelled => exact absurd spelled unspelled
  | code spelled =>
      cases also with
      | null => exact absurd spelled unspelled
      | code spelledAlso =>
          rcases spelled with ⟨text, listed, normal⟩
          rcases spelledAlso with ⟨other, listedAlso, normalAlso⟩
          exact congrArg some
            (LeafKind.eq_of_mem_texts text listed (normal.unique normalAlso ▸ listedAlso))

theorem ChildrenStated.unique {found : Option Json} {first second : List Json}
    (stated : ChildrenStated found first) (also : ChildrenStated found second) :
    first = second := by
  cases stated with
  | absent =>
      cases also
      rfl
  | list children =>
      cases also
      rfl

/-- A document has one outline at most. -/
theorem Outline.StatedBy.unique {first second : Outline} (stated : first.StatedBy value)
    (also : second.StatedBy value) : first = second := by
  cases stated with
  | parts gives fields logic kind children =>
      cases also with
      | parts givesAlso fieldsAlso logicAlso kindAlso childrenAlso =>
          cases gives.unique givesAlso
          cases first
          cases second
          rw [Outline.mk.injEq]
          exact ⟨fields.unique fieldsAlso, logic.unique logicAlso, kind.unique kindAlso,
            children.unique childrenAlso⟩

/-! ## What is decoded, by the outline -/

variable {condition : Condition} {logic : Logic} {kind : LeafKind}
  {fields : List (String × List Json)} {outline : Outline}

/-- A document without children is decoded by filling an empty leaf. -/
theorem fromValue_of_leaf (canonical : value.Canonical)
    (stated : Outline.StatedBy value ⟨fields, logic, some kind, []⟩) :
    Decode.fromValue Condition.decode value = .ok condition ↔
      ∃ test, Leaf.insertAll fields (Leaf.empty kind) = .ok test ∧
        .leaf logic test = condition := by
  have filled (test : Leaf) := @Leaf.insertAll_empty_eq_ok fields kind
    (stated.sorted_fields canonical) test
  refine (decode_eq_ok_iff_describes canonical).trans ?_
  constructor
  · intro describes
    cases describes with
    | leaf statedAlso childless kindGiven holds =>
        cases stated.unique statedAlso
        exact ⟨_, (filled _).2 ⟨(Option.some.inj kindGiven).symm, holds⟩, rfl⟩
    | group statedAlso inhabited each =>
        cases stated.unique statedAlso
        exact absurd rfl inhabited
  · rintro ⟨test, inserted, rfl⟩
    have ⟨same, holds⟩ := (filled test).1 inserted
    exact .leaf stated rfl (congrArg some same.symm) holds

/-- A document with children is decoded as the group of what is decoded from
them. -/
theorem fromValue_of_group (canonical : value.Canonical) (stated : outline.StatedBy value)
    (inhabited : outline.children ≠ []) :
    Decode.fromValue Condition.decode value = .ok condition ↔
      ∃ children, List.Forall₂ (fun child decoded =>
          Decode.fromValue Condition.decode child = .ok decoded) outline.children children ∧
        .group outline.logic children = condition := by
  have each (children : List Condition) :
      List.Forall₂ (fun child decoded =>
          Decode.fromValue Condition.decode child = .ok decoded) outline.children children ↔
        List.Forall₂ Describes outline.children children :=
    forall₂_congr_left fun child listed _ =>
      decode_eq_ok_iff_describes ((stated.child_lt_and_canonical listed).2 canonical)
  simp only [each]
  refine (decode_eq_ok_iff_describes canonical).trans ?_
  constructor
  · intro describes
    cases describes with
    | leaf statedAlso childless kindGiven holds =>
        cases stated.unique statedAlso
        exact absurd childless inhabited
    | group statedAlso _ described =>
        cases stated.unique statedAlso
        exact ⟨_, described, rfl⟩
  · rintro ⟨children, described, rfl⟩
    exact .group stated inhabited described

end Condition

end CriteriaSearch
