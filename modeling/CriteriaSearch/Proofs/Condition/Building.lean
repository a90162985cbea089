import CriteriaSearch.Proofs.Condition.Insertions
import CriteriaSearch.Proofs.Condition.Outlines
import CriteriaSearch.Proofs.Condition.Spellings
import CriteriaSearch.Query.Compilation

namespace CriteriaSearch

/-!
# Building conditions by calls

A condition can be built by calls instead of being decoded: an empty leaf is
made and values are put in field by field, in the order of the calls, and
groups are made of the conditions that have been built.  A document says the
same in another way, with one list of values for each field, and its fields
are put in by the order of their names.

The two ways lead to the same condition.  Calls for different fields do not
get in each other's way, and of several calls for one field the last one
counts.  Only the names of fields that have to be there keep the order of the
calls, so those calls have to be made in the order of the names.
-/

/-- How a condition is built by calls. -/
inductive Plan where
  | leaf (kind : LeafKind) (logic : Logic) (calls : List (String × List Json))
  | group (logic : Logic) (children : List Plan)

namespace Plan

mutual

/-- Makes the calls of a plan, up to the first that fails. -/
def build : Plan → Except ConditionFault Condition
  | .leaf kind logic calls => Condition.fields calls (.leaf logic (.empty kind))
  | .group logic children => (buildAll children).map (.group logic)

/-- Builds conditions one after the other. -/
def buildAll : List Plan → Except ConditionFault (List Condition)
  | [] => .ok []
  | plan :: rest => do
    let first ← plan.build
    let others ← buildAll rest
    return first :: others

end

/-- What holds of the calls of every leaf of a plan. -/
inductive Everywhere (holds : LeafKind → List (String × List Json) → Prop) : Plan → Prop
  | leaf {kind : LeafKind} {logic : Logic} {calls : List (String × List Json)}
      (here : holds kind calls) : Everywhere holds (.leaf kind logic calls)
  | group {logic : Logic} {children : List Plan}
      (each : ∀ child ∈ children, Everywhere holds child) : Everywhere holds (.group logic children)

/-- Fields that have to be there are named in increasing order. -/
def Ordered : Plan → Prop :=
  Everywhere fun kind calls => kind = .presence → Members.Sorted calls

/-- No leaf is given values for one field twice. -/
def Distinct : Plan → Prop :=
  Everywhere fun _ calls => (Members.names calls).Nodup

/-- The document asks for what the plan builds.  It gives each field the
values of the last call for it. -/
inductive WrittenBy : Json → Plan → Prop
  | leaf {value : Json} {kind : LeafKind} {logic : Logic} {calls : List (String × List Json)}
      (stated : Condition.Outline.StatedBy value
        ⟨(FieldMap.ofList calls).entries, logic, some kind, []⟩) :
      WrittenBy value (.leaf kind logic calls)
  | group {value : Json} {outline : Condition.Outline} {children : List Plan}
      (stated : outline.StatedBy value) (inhabited : outline.children ≠ [])
      (each : List.Forall₂ WrittenBy outline.children children) :
      WrittenBy value (.group outline.logic children)

/-- Every group of a plan has children, and the values of all calls are
canonical. -/
inductive Writable : Plan → Prop
  | leaf {kind : LeafKind} {logic : Logic} {calls : List (String × List Json)}
      (canonical : ∀ call ∈ calls, ∀ value ∈ call.2, value.Canonical) :
      Writable (.leaf kind logic calls)
  | group {logic : Logic} {children : List Plan} (inhabited : children ≠ [])
      (each : ∀ child ∈ children, Writable child) : Writable (.group logic children)

mutual

/-- A document that asks for what the plan builds. -/
def document : Plan → Json
  | .leaf kind logic calls => .obj [
      ("fieldValues", .obj ((Members.ofList calls).map fun field => (field.1, .arr field.2))),
      ("logic", .str logic.name), ("nodeType", .str kind.name)]
  | .group logic children => .obj [("children", .arr (documents children)),
      ("logic", .str logic.name)]

def documents : List Plan → List Json
  | [] => []
  | plan :: rest => plan.document :: documents rest

end

/-- What a plan builds is what the document is decoded to.  If a leaf names a
field twice, a call can fail whose values are in no document, so then it is
only known that nothing else is built. -/
structure BuildsDecoded (plan : Plan) (value : Json) : Prop where
  decoded_of_built : ∀ condition, plan.build = .ok condition →
    Decode.fromValue Condition.decode value = .ok condition
  built_iff_decoded : plan.Distinct → ∀ condition, plan.build = .ok condition ↔
    Decode.fromValue Condition.decode value = .ok condition
  query : plan.Distinct → ∀ (compiler : Compiler) (front back : List Condition)
    (dates : DateWindow) (zone : Option String) (localZone : String) (query : BoolQuery),
    (∃ condition, plan.build = .ok condition ∧
        compiler.compile (front ++ condition :: back) dates zone localZone = query) ↔
      ∃ condition, Decode.fromValue Condition.decode value = .ok condition ∧
        compiler.compile (front ++ condition :: back) dates zone localZone = query

end Plan

/-! ## Calls for one leaf -/

namespace LeafKind

variable {kind : LeafKind} {calls : List (String × List Json)} {field : String}
  {values : List Json}

/-- If all steps succeed, the last one for a field is the last of its name. -/
theorem lastTaken_iff_of_taken (taken : ∀ call ∈ calls, kind.Takes call.2) :
    kind.LastTaken calls field values ↔ Members.find? field calls.reverse = some values := by
  induction calls using List.reverseRecOn with
  | nil =>
      constructor
      · rintro ⟨front, back, split, -⟩
        cases front <;> cases split
      · exact nofun
  | append_singleton calls call ih =>
      have takenLast : kind.Takes call.2 := taken call List.mem_concat_self
      rw [List.reverse_append, List.reverse_singleton, List.singleton_append, Members.find?]
      split
      · next same =>
          subst same
          rw [Option.some.injEq, eq_comm]
          exact lastTaken_concat_self takenLast
      · next different =>
          rw [lastTaken_concat_of_not fun same => absurd same different]
          exact ih fun call listed => taken call (List.mem_append_left _ listed)

end LeafKind

namespace Leaf

variable {kind : LeafKind} {calls : List (String × List Json)} {leaf test : Leaf}

/-- All values can be put in if the kind takes them all, and then no step is
left out. -/
theorem insertAll_eq_ok_iff :
    insertAll calls leaf = .ok test ↔
      (∀ call ∈ calls, leaf.kind.Takes call.2) ∧ putEach calls leaf = test := by
  induction calls generalizing leaf with
  | nil => simp [insertAll, putEach]
  | cons call rest ih =>
      have puts := leaf.putsExactly call.1 call.2
      rw [insertAll, Decode.bind_eq_ok, List.forall_mem_cons]
      constructor
      · rintro ⟨after, inserted, following⟩
        have done := put_eq_ok.2 inserted
        rcases ih.1 following with ⟨taken, filled⟩
        rw [puts.kind_eq after done] at taken
        rw [putEach, done]
        exact ⟨⟨puts.succeeds_iff.1 ⟨after, done⟩, taken⟩, filled⟩
      · rintro ⟨⟨takesFirst, taken⟩, filled⟩
        rcases puts.succeeds_iff.2 takesFirst with ⟨after, done⟩
        rw [putEach, done] at filled
        rw [← puts.kind_eq after done] at taken
        exact ⟨after, put_eq_ok.1 done, ih.2 ⟨taken, filled⟩⟩

/-- If all calls succeed, the table of the last values for each field leaves
the same leaf behind. -/
theorem putEach_ofList_eq (ordered : kind = .presence → Members.Sorted calls)
    (taken : ∀ call ∈ calls, kind.Takes call.2) :
    putEach (Members.ofList calls) (empty kind) = putEach calls (empty kind) := by
  have sorted := Members.sorted_ofList calls
  have takenLast : ∀ call ∈ Members.ofList calls, kind.Takes call.2 := fun call listed =>
    taken call (Members.mem_of_mem_ofList listed)
  apply (filledBy_putEach kind _).eq_of_same (filledBy_putEach kind calls)
  · intro tabled field values
    rw [LeafKind.lastTaken_iff_of_taken taken, LeafKind.lastTaken_iff_of_taken takenLast,
      ← Members.find?_ofList, ← Members.find?_ofList, Members.ofList_of_sorted sorted]
  · intro presence
    rw [Members.ofList_of_sorted (ordered presence)]

theorem insertAll_ofList (ordered : kind = .presence → Members.Sorted calls)
    (inserted : insertAll calls (empty kind) = .ok test) :
    insertAll (Members.ofList calls) (empty kind) = .ok test := by
  rcases insertAll_eq_ok_iff.1 inserted with ⟨taken, filled⟩
  refine insertAll_eq_ok_iff.2
    ⟨fun call listed => taken call (Members.mem_of_mem_ofList listed), ?_⟩
  rw [(filledBy_empty kind).kind_eq] at taken
  rw [putEach_ofList_eq ordered taken, filled]

/-- If no field is named twice, the calls can be made in any order. -/
theorem insertAll_ofList_iff (ordered : kind = .presence → Members.Sorted calls)
    (distinct : (Members.names calls).Nodup) :
    insertAll calls (empty kind) = .ok test ↔
      insertAll (Members.ofList calls) (empty kind) = .ok test := by
  refine ⟨insertAll_ofList ordered, fun inserted => ?_⟩
  rcases insertAll_eq_ok_iff.1 inserted with ⟨taken, filled⟩
  have takenAll : ∀ call ∈ calls, (empty kind).kind.Takes call.2 := fun call listed =>
    taken call ((Members.ofList_perm distinct).mem_iff.2 listed)
  refine insertAll_eq_ok_iff.2 ⟨takenAll, ?_⟩
  rw [(filledBy_empty kind).kind_eq] at takenAll
  rw [← putEach_ofList_eq ordered takenAll, filled]

end Leaf

/-! ## Whole trees -/

/-- Lists that are related item by item, and the second to a third, make the
first related to the third. -/
theorem forall₂_comp {α β γ : Type} {first : α → β → Prop} {second : β → γ → Prop}
    {whole : α → γ → Prop} {items : List α} {others : List β} {values : List γ}
    (compose : ∀ item ∈ items, ∀ other ∈ others, ∀ value,
      first item other → second other value → whole item value)
    (before : List.Forall₂ first items others) (behind : List.Forall₂ second others values) :
    List.Forall₂ whole items values := by
  induction before generalizing values with
  | nil =>
      cases behind
      exact .nil
  | cons head _ ih =>
      cases behind with
      | cons headBehind tailBehind =>
          refine .cons (compose _ List.mem_cons_self _ List.mem_cons_self _ head headBehind)
            (ih (fun item listed other among => ?_) tailBehind)
          exact compose item (List.mem_cons_of_mem _ listed) other (List.mem_cons_of_mem _ among)

namespace Condition

/-- Calls put values into the leaf of the condition. -/
theorem fields_leaf (calls : List (String × List Json)) (logic : Logic) (test : Leaf) :
    fields calls (.leaf logic test) = (Leaf.insertAll calls test).map (.leaf logic) := by
  induction calls generalizing test with
  | nil => rfl
  | cons call rest ih =>
      rw [fields, field, Leaf.insertAll]
      cases test.insert call.1 call.2 with
      | error fault => rfl
      | ok after => exact ih after

end Condition

namespace Plan

open Condition (fromValue_of_leaf fromValue_of_group)

variable {value : Json} {plan : Plan}

theorem buildAll_eq_ok {plans : List Plan} {conditions : List Condition} :
    buildAll plans = .ok conditions ↔
      List.Forall₂ (fun plan condition => plan.build = .ok condition) plans conditions := by
  induction plans generalizing conditions with
  | nil =>
      rw [buildAll, Except.ok.injEq, List.forall₂_nil_left_iff, eq_comm]
  | cons plan rest ih =>
      rw [buildAll, Decode.bind_eq_ok, List.forall₂_cons_left_iff]
      constructor
      · rintro ⟨first, built, finished⟩
        rcases Decode.bind_eq_ok.1 finished with ⟨others, following, same⟩
        exact ⟨first, others, built, ih.1 following, (Except.ok.inj same).symm⟩
      · rintro ⟨first, others, built, following, rfl⟩
        exact ⟨first, built, Decode.bind_eq_ok.2 ⟨others, ih.2 following, rfl⟩⟩

/-- The condition that is built is decoded, and that which is decoded is built
if no field is named twice. -/
theorem WrittenBy.decoded_and_built (canonical : value.Canonical) (written : WrittenBy value plan)
    (ordered : plan.Ordered) (condition : Condition) :
    (plan.build = .ok condition → Decode.fromValue Condition.decode value = .ok condition) ∧
      (plan.Distinct → Decode.fromValue Condition.decode value = .ok condition →
        plan.build = .ok condition) := by
  -- What is inside a document is canonical too, so the induction is on the document.
  induction value, canonical using Condition.document_induction generalizing plan condition with
  | step value canonical ih =>
      cases written with
      | leaf stated =>
          cases ordered with
          | leaf ordered =>
              rw [fromValue_of_leaf canonical stated, build, Condition.fields_leaf,
                Decode.map_eq_ok]
              constructor
              · rintro ⟨test, inserted, same⟩
                exact ⟨test, Leaf.insertAll_ofList ordered inserted, same⟩
              · rintro distinct ⟨test, inserted, same⟩
                cases distinct with
                | leaf distinct =>
                    exact ⟨test, (Leaf.insertAll_ofList_iff ordered distinct).2 inserted, same⟩
      | @group _ outline children stated inhabited each =>
          cases ordered with
          | group ordered =>
              rw [fromValue_of_group canonical stated inhabited, build, Decode.map_eq_ok]
              simp only [buildAll_eq_ok]
              constructor
              · rintro ⟨conditions, built, same⟩
                refine ⟨conditions, forall₂_comp ?_ each built, same⟩
                intro document listed child among condition written
                exact (ih outline stated document listed written (ordered child among) condition).1
              · rintro distinct ⟨conditions, decoded, same⟩
                cases distinct with
                | group distinct =>
                    refine ⟨conditions, forall₂_comp ?_ each.flip decoded, same⟩
                    intro child among document listed condition written
                    exact (ih outline stated document listed written (ordered child among)
                      condition).2 (distinct child among)

theorem documents_eq_map (plans : List Plan) : documents plans = plans.map document := by
  induction plans with
  | nil => rfl
  | cons plan rest ih => rw [documents, ih, List.map_cons]

theorem canonical_document (writable : plan.Writable) : plan.document.Canonical := by
  induction writable with
  | @leaf kind logic calls canonical =>
      refine Condition.canonical_leaf (Condition.canonical_fields (Members.sorted_ofList calls) ?_)
        logic.name kind.name
      exact fun call listed => canonical call (Members.mem_of_mem_ofList listed)
  | @group logic children inhabited _ ih =>
      have inside : (Json.arr (documents children)).Canonical := by
        rw [documents_eq_map, Json.canonical_arr, List.forall_mem_map]
        exact ih
      exact Condition.canonical_group inside logic.name

theorem writtenBy_document (writable : plan.Writable) : WrittenBy plan.document plan := by
  induction writable with
  | @leaf kind logic calls canonical =>
      exact .leaf (.parts (Condition.gives_leaf _ _ _) (.object (Members.ofList calls))
        (.code (Logic.spelledBy_of_spells (.name (Condition.respells_refl _))))
        (.code (LeafKind.spelledBy_of_spells (.name (Condition.respells_refl _)))) .absent)
  | @group logic children inhabited _ ih =>
      have stated : Condition.Outline.StatedBy (document (.group logic children))
          ⟨[], logic, none, documents children⟩ :=
        .parts (Condition.gives_group _ _) .absent
          (.code (Logic.spelledBy_of_spells (.name (Condition.respells_refl _)))) .absent
          (.list (documents children))
      refine .group stated ?_ ?_
      · rw [documents_eq_map]
        exact fun none => inhabited (List.map_eq_nil_iff.1 none)
      · rw [documents_eq_map, List.forall₂_map_left_iff, List.forall₂_same]
        exact ih

/-- Building by calls and decoding a document that asks for the same lead to
the same condition and so to the same query, and there is such a document.  A
document with children is decoded to the group of what its children are
decoded to. -/
theorem builds_what_is_decoded :
    (∀ plan : Plan, plan.Writable → plan.document.Canonical ∧ WrittenBy plan.document plan) ∧
    (∀ (plan : Plan) (value : Json), plan.Ordered → value.Canonical → WrittenBy value plan →
      plan.BuildsDecoded value) ∧
    ∀ (value : Json) (outline : Condition.Outline), value.Canonical → outline.StatedBy value →
      outline.children ≠ [] → ∀ condition,
        Decode.fromValue Condition.decode value = .ok condition ↔
          ∃ children, List.Forall₂ (fun child decoded =>
              Decode.fromValue Condition.decode child = .ok decoded) outline.children children ∧
            .group outline.logic children = condition := by
  refine ⟨?_, ?_, ?_⟩
  · intro plan writable
    exact ⟨canonical_document writable, writtenBy_document writable⟩
  · intro plan value ordered canonical written
    have both := written.decoded_and_built canonical ordered
    have same (distinct : plan.Distinct) (condition : Condition) :
        plan.build = .ok condition ↔ Decode.fromValue Condition.decode value = .ok condition :=
      ⟨(both condition).1, (both condition).2 distinct⟩
    constructor
    · exact fun condition => (both condition).1
    · exact same
    · intro distinct compiler front back dates zone localZone query
      exact exists_congr fun condition => and_congr_left fun _ => same distinct condition
  · intro value outline canonical stated inhabited condition
    exact fromValue_of_group canonical stated inhabited

/-- A group of a leaf whose calls are made in another order and one whose
document is a list. -/
theorem builds_what_is_decoded_group :
    let plan := Plan.group .should
      [.leaf .terms .must [("b", [.str "x"]), ("a", [.bool true])],
        .leaf .presence .mustNot [("a", []), ("c", [.null])]]
    let first := Json.obj [("logic", .str "must"), ("nodeType", .str "terms"),
      ("pair", .obj [("a", .arr [.bool true]), ("b", .arr [.str "x"])])]
    let second := Json.arr [.obj [("a", .arr []), ("c", .arr [.null])], .str "3", .str "exists"]
    let value := Json.obj [("children", .arr [first, second]), ("logic", .str "should")]
    let condition := Condition.group .should
      [.leaf .must (.terms (FieldMap.ofList [("a", [.truth true]), ("b", [.text "x"])])),
        .leaf .mustNot (.presence ["a", "c"])]
    value.Canonical ∧ WrittenBy value plan ∧ plan.Ordered ∧ plan.Distinct ∧
      plan.build = .ok condition ∧
      Decode.fromValue Condition.decode value = .ok condition := by
  intro plan first second value condition
  have canonical : value.Canonical := by
    simp only [value, first, second, Json.Canonical, Json.CanonicalMembers, Json.CanonicalItems,
      Members.Sorted]
    decide
  have firstStated : Condition.Outline.StatedBy first
      ⟨[("a", [.bool true]), ("b", [.str "x"])], .must, some .terms, []⟩ := by
    have gives : Condition.Gives first (Condition.partsOf
        (some (.obj [("a", .arr [.bool true]), ("b", .arr [.str "x"])])) (some (.str "must"))
        (some (.str "terms")) none) := .object fun part => by cases part <;> rfl
    refine .parts gives ?_ ?_ ?_ ?_
    · exact .object [("a", [.bool true]), ("b", [.str "x"])]
    · exact .code ⟨"MUST", by decide, .string "must"⟩
    · exact .code ⟨"TERMS", by decide, .string "terms"⟩
    · exact .absent
  have secondStated : Condition.Outline.StatedBy second
      ⟨[("a", []), ("c", [.null])], .mustNot, some .presence, []⟩ := by
    refine .parts (.list (by decide) (by decide) fun part => rfl) ?_ ?_ ?_ ?_
    · exact .object [("a", []), ("c", [.null])]
    · exact .code ⟨"3", by decide, .string "3"⟩
    · exact .code ⟨"EXISTS", by decide, .string "exists"⟩
    · exact .absent
  have stated : Condition.Outline.StatedBy value ⟨[], .should, none, [first, second]⟩ := by
    refine .parts (Condition.gives_group _ _) ?_ ?_ ?_ ?_
    · exact .absent
    · exact .code ⟨"SHOULD", by decide, .string "should"⟩
    · exact .absent
    · exact .list [first, second]
  have written : WrittenBy value plan :=
    .group stated (List.cons_ne_nil _ _)
      (.cons (.leaf firstStated) (.cons (.leaf secondStated) .nil))
  have ordered : plan.Ordered := .group fun child listed => by
    rcases List.mem_pair.1 listed with rfl | rfl
    · exact .leaf fun same => absurd same (by decide)
    · refine .leaf fun _ => ?_
      rw [Members.Sorted]
      decide
  have distinct : plan.Distinct := .group fun child listed => by
    rcases List.mem_pair.1 listed with rfl | rfl
    · exact .leaf (by decide)
    · exact .leaf (by decide)
  have built : plan.build = .ok condition := rfl
  have builds := builds_what_is_decoded.2.1 plan value ordered canonical written
  exact ⟨canonical, written, ordered, distinct, built,
    (builds.built_iff_decoded distinct condition).1 built⟩

end Plan

end CriteriaSearch
