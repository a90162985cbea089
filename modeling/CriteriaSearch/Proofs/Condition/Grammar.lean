import CriteriaSearch.Condition.Decoding
import CriteriaSearch.Proofs.Condition.Leaves

namespace CriteriaSearch

/-!
# The grammar of condition documents

A condition document is an object that names its parts or a list that gives
them by position: the values of fields, a logic, a kind and children.  What
the parts are by themselves is its outline.  Only the logic is required; a
missing part of another sort, or a null instead of a kind, is as good as none.

Some things are asked of every outline and others of leaves alone.  The parts
have to have their shapes and the children have to be documents in turn,
whether or not the rest is used.  A document with children is a group and
stands for the conditions of its children, whatever its kind and its values
are.  One without children is a leaf, so it has to name a kind that takes the
values of all fields.

Two descriptions are given.  `Accepted` tells which values are documents, and
`Describes` which condition a document stands for.  Neither mentions how
documents are decoded, and the first is proved to be the domain of the second.
-/

/-- The text that a code comes to.  An unsigned integer comes to its digits,
and a string loses its underscores and is put in upper case. -/
inductive NormalText : Json → String → Prop
  | number (n : WordInt) (unsigned : 0 ≤ n.val) :
      NormalText (.num (.integer n)) (toString n.val.toNat)
  | string (s : String) :
      NormalText (.str s) (String.ofList ((s.toList.filter (· ≠ '_')).map Char.toUpper))

/-- The texts that mean a logic. -/
def Logic.texts : Logic → List String
  | .should => ["1", "SHOULD"]
  | .must => ["2", "MUST"]
  | .mustNot => ["3", "MUSTNOT"]

/-- The texts that mean a kind of leaf. -/
def LeafKind.texts : LeafKind → List String
  | .terms => ["1", "TERMS"]
  | .phrase => ["2", "MATCHPHRASE"]
  | .range => ["3", "RANGE"]
  | .start => ["4", "PREFIX"]
  | .pattern => ["5", "WILDCARD"]
  | .presence => ["6", "EXISTS"]

/-- The value comes to one of these texts. -/
def SpelledBy (value : Json) (texts : List String) : Prop :=
  ∃ text ∈ texts, NormalText value text

namespace Condition

open Draft (Part)

/-! ## The parts of a document -/

/-- The names under which an object gives a part. -/
def Draft.Part.names : Part → List String
  | .values => ["fieldValues", "pair"]
  | .logic => ["logic", "queryLogic"]
  | .kind => ["nodeType", "queryType"]
  | .children => ["children"]

/-- The position at which a list gives a part. -/
def Draft.Part.position : Part → Nat
  | .values => 0
  | .logic => 1
  | .kind => 2
  | .children => 3

/-- What the members of an object give for a part, once for each name. -/
def given (members : List (String × Json)) (part : Part) : List Json :=
  (members.filter fun member => member.1 ∈ part.names).map Prod.snd

/-- What a document gives for each of its parts.  An object gives no part
twice, and its other members do not matter.  Only the last two elements of a
list can be left out. -/
inductive Gives : Json → (Part → Option Json) → Prop
  | object {members : List (String × Json)} {parts : Part → Option Json}
      (once : ∀ part, given members part = (parts part).toList) : Gives (.obj members) parts
  | list {items : List Json} {parts : Part → Option Json}
      (least : 2 ≤ items.length) (most : items.length ≤ 4)
      (placed : ∀ part, parts part = items[part.position]?) : Gives (.arr items) parts

inductive FieldsStated : Option Json → List (String × List Json) → Prop
  | absent : FieldsStated none []
  | object (fields : List (String × List Json)) :
      FieldsStated (some (.obj (fields.map fun field => (field.1, .arr field.2)))) fields

inductive LogicStated : Option Json → Logic → Prop
  | code {value : Json} {logic : Logic} (spelled : SpelledBy value logic.texts) :
      LogicStated (some value) logic

inductive KindStated : Option Json → Option LeafKind → Prop
  | absent : KindStated none none
  | null : KindStated (some .null) none
  | code {value : Json} {kind : LeafKind} (spelled : SpelledBy value kind.texts) :
      KindStated (some value) (some kind)

inductive ChildrenStated : Option Json → List Json → Prop
  | absent : ChildrenStated none []
  | list (children : List Json) : ChildrenStated (some (.arr children)) children

/-- A document without the documents inside it. -/
structure Outline where
  fields : List (String × List Json)
  logic : Logic
  kind : Option LeafKind
  children : List Json

/-- The value has this outline. -/
inductive Outline.StatedBy (value : Json) (outline : Outline) : Prop
  | parts {parts : Part → Option Json} (gives : Gives value parts)
      (fields : FieldsStated (parts .values) outline.fields)
      (logic : LogicStated (parts .logic) outline.logic)
      (kind : KindStated (parts .kind) outline.kind)
      (children : ChildrenStated (parts .children) outline.children)

/-- The values that are condition documents. -/
inductive Accepted : Json → Prop
  | document {value : Json} {outline : Outline} (stated : outline.StatedBy value)
      (children : ∀ child ∈ outline.children, Accepted child)
      (leaf : outline.children = [] →
        ∃ kind, outline.kind = some kind ∧ ∀ field ∈ outline.fields, kind.Takes field.2) :
      Accepted value

/-- The conditions that documents stand for.  Of a group, the kind and the
values are dropped. -/
inductive Describes : Json → Condition → Prop
  | leaf {value : Json} {outline : Outline} {test : Leaf} (stated : outline.StatedBy value)
      (childless : outline.children = []) (kind : outline.kind = some test.kind)
      (holds : test.Holds outline.fields) : Describes value (.leaf outline.logic test)
  | group {value : Json} {outline : Outline} {children : List Condition}
      (stated : outline.StatedBy value) (inhabited : outline.children ≠ [])
      (each : List.Forall₂ Describes outline.children children) :
      Describes value (.group outline.logic children)

/-! ## Documents inside documents -/

/-- What a document gives for a part is inside it. -/
theorem Gives.lt_and_canonical {value : Json} {parts : Part → Option Json}
    (gives : Gives value parts) {part : Part} {found : Json} (present : parts part = some found) :
    sizeOf found < sizeOf value ∧ (value.Canonical → found.Canonical) := by
  cases gives with
  | @object members _ once =>
      have listed : found ∈ given members part := by
        rw [once, present]
        exact List.mem_singleton_self found
      rcases List.mem_map.1 listed with ⟨member, among, rfl⟩
      have inside : member ∈ members := (List.mem_filter.1 among).1
      have smaller := List.sizeOf_lt_of_mem inside
      refine ⟨?_, fun canonical => (Json.canonical_obj.1 canonical).2 member inside⟩
      have pair : sizeOf member = 1 + sizeOf member.1 + sizeOf member.2 := rfl
      rw [Json.obj.sizeOf_spec]
      omega
  | @list items _ least most placed =>
      have inside : found ∈ items := List.mem_of_getElem? (placed part ▸ present)
      have smaller := List.sizeOf_lt_of_mem inside
      refine ⟨?_, fun canonical => Json.canonical_arr.1 canonical found inside⟩
      rw [Json.arr.sizeOf_spec]
      omega

theorem ChildrenStated.eq_some_of_mem {part : Option Json} {children : List Json}
    (stated : ChildrenStated part children) {child : Json} (listed : child ∈ children) :
    part = some (.arr children) := by
  cases stated with
  | absent => cases listed
  | list children => rfl

theorem FieldsStated.sorted {part : Option Json} {fields : List (String × List Json)}
    (stated : FieldsStated part fields)
    (canonical : ∀ found, part = some found → found.Canonical) : Members.Sorted fields := by
  cases stated with
  | absent => exact List.Pairwise.nil
  | object fields =>
      have sorted := (Json.canonical_obj.1 (canonical _ rfl)).1
      rw [Members.sorted_iff_pairwise_names, List.map_map] at sorted
      exact Members.sorted_iff_pairwise_names.2 sorted

namespace Outline.StatedBy

variable {value : Json} {outline : Outline}

/-- A child is inside its document. -/
theorem child_lt_and_canonical (stated : outline.StatedBy value) {child : Json}
    (listed : child ∈ outline.children) :
    sizeOf child < sizeOf value ∧ (value.Canonical → child.Canonical) := by
  cases stated with
  | parts gives _ _ _ childrenStated =>
      have ⟨smaller, kept⟩ := gives.lt_and_canonical (childrenStated.eq_some_of_mem listed)
      have inside := List.sizeOf_lt_of_mem listed
      rw [Json.arr.sizeOf_spec] at smaller
      exact ⟨by omega, fun canonical => Json.canonical_arr.1 (kept canonical) child listed⟩

/-- The names of the fields increase. -/
theorem sorted_fields (stated : outline.StatedBy value) (canonical : value.Canonical) :
    Members.Sorted outline.fields := by
  cases stated with
  | parts gives fieldsStated _ _ _ =>
      exact fieldsStated.sorted fun _ present => (gives.lt_and_canonical present).2 canonical

end Outline.StatedBy

/-- What holds of a value whenever it holds of the children in every outline
of it holds of all values. -/
theorem document_induction {motive : (value : Json) → value.Canonical → Prop}
    (step : ∀ value canonical,
      (∀ (outline : Outline) (stated : outline.StatedBy value) (child : Json)
        (listed : child ∈ outline.children),
        motive child ((stated.child_lt_and_canonical listed).2 canonical)) →
      motive value canonical)
    (value : Json) (canonical : value.Canonical) : motive value canonical :=
  step value canonical fun _ stated child listed =>
    document_induction step child ((stated.child_lt_and_canonical listed).2 canonical)
termination_by sizeOf value
decreasing_by exact (stated.child_lt_and_canonical listed).1

/-- The documents are the values that stand for a condition. -/
theorem accepted_iff_exists_describes {value : Json} (canonical : value.Canonical) :
    Accepted value ↔ ∃ condition, Describes value condition := by
  induction value, canonical using document_induction with
  | step value canonical ih =>
      constructor
      · rintro ⟨stated, children, leaf⟩
        rename_i outline
        by_cases childless : outline.children = []
        · rcases leaf childless with ⟨kind, kindStated, takes⟩
          rcases (Leaf.exists_holds_iff (stated.sorted_fields canonical)).2 takes with
            ⟨test, rfl, holds⟩
          exact ⟨_, .leaf stated childless kindStated holds⟩
        · have described : ∀ child ∈ outline.children, ∃ condition, Describes child condition :=
            fun child listed => (ih outline stated child listed).1 (children child listed)
          rcases exists_forall₂_iff.2 described with ⟨conditions, each⟩
          exact ⟨_, .group stated childless each⟩
      · rintro ⟨condition, describes⟩
        cases describes with
        | leaf stated childless kindStated holds =>
            refine .document stated (childless ▸ nofun) fun _ => ⟨_, kindStated, ?_⟩
            exact (Leaf.exists_holds_iff (stated.sorted_fields canonical)).1 ⟨_, rfl, holds⟩
        | group stated inhabited each =>
            refine .document stated (fun child listed => ?_) fun childless =>
              absurd childless inhabited
            exact (ih _ stated child listed).2 (exists_forall₂_iff.1 ⟨_, each⟩ child listed)

end Condition

end CriteriaSearch
