import CriteriaSearch.Proofs.Json.Order
import Mathlib.Logic.Relation

namespace CriteriaSearch

/-!
# Ways to write the same document

A request or a condition can be written in several ways.  The members of any
object in it may stand in another order, and a field that has two names may be
given under either of them.  Which names those are depends on what the object
stands for: the names in a table of field values, for instance, are those of
the caller and have no others.  So a rewriting is a relation between documents
that knows what each part of them stands for.

Every document that uses no name twice can be rewritten to the value that it
is parsed to.
-/

/-- What a part of a document stands for. -/
inductive Shape where
  /-- A value in which no field has two names. -/
  | plain
  | list (item : Shape)
  | condition
  | sortKey
  | paging
  deriving DecidableEq

namespace Shape

/-- What the member of an object stands for. -/
def member : Shape → String → Shape
  | .plain, _ | .list _, _ | .sortKey, _ => .plain
  | .condition, name => if name = "children" then .list .condition else .plain
  | .paging, name =>
    if name = "conditions" ∨ name = "queryConds" then .list .condition
    else if name = "sortBy" ∨ name = "sortby" then .list .sortKey
    else .plain

/-- What the element of an array stands for.  An array can also list the fields
of a record in the order of their positions. -/
def item : Shape → Nat → Shape
  | .plain, _ | .sortKey, _ => .plain
  | .list s, _ => s
  | .condition, position => if position = 3 then .list .condition else .plain
  | .paging, position =>
    if position = 3 then .list .condition
    else if position = 6 then .list .sortKey
    else .plain

/-- The fields that have two names. -/
def aliases : Shape → List (String × String)
  | .plain | .list _ | .sortKey => []
  | .condition =>
    [("fieldValues", "pair"), ("logic", "queryLogic"), ("nodeType", "queryType")]
  | .paging =>
    [("conditions", "queryConds"), ("sortBy", "sortby"), ("includes", "includeFields"),
      ("excludes", "excludeFields"), ("streamBatchSize", "scrollSize"), ("timeZone", "zone")]

theorem aliases_ne (s : Shape) : ∀ pair ∈ s.aliases, pair.1 ≠ pair.2 := by
  cases s with
  | list _ => exact nofun
  | _ => decide

/-- One change to the way in which a document is written. -/
inductive Step : Shape → Json → Json → Prop
  | permute {s : Shape} {members rearranged : List (String × Json)}
      (perm : members.Perm rearranged) : Step s (.obj members) (.obj rearranged)
  /-- A field is given under its other name, unless that is used already. -/
  | rename {s : Shape} {front back : List (String × Json)} {old new : String} {value : Json}
      (names : (old, new) ∈ s.aliases ∨ (new, old) ∈ s.aliases)
      (absent : new ∉ Members.names (front ++ (old, value) :: back)) :
      Step s (.obj (front ++ (old, value) :: back)) (.obj (front ++ (new, value) :: back))
  | member {s : Shape} {front back : List (String × Json)} {name : String} {value held : Json}
      (inside : Step (s.member name) value held) :
      Step s (.obj (front ++ (name, value) :: back)) (.obj (front ++ (name, held) :: back))
  | item {s : Shape} {front back : List Json} {value held : Json}
      (inside : Step (s.item front.length) value held) :
      Step s (.arr (front ++ value :: back)) (.arr (front ++ held :: back))

/-- Two documents are written in different ways. -/
def Rewrites (s : Shape) : Json → Json → Prop :=
  Relation.ReflTransGen (Step s)

/-- Somewhere in the document a field is given under both of its names. -/
inductive Doubled : Shape → Json → Prop
  | here {s : Shape} {members : List (String × Json)} {name other : String}
      (names : (name, other) ∈ s.aliases) (given : name ∈ Members.names members)
      (also : other ∈ Members.names members) : Doubled s (.obj members)
  | member {s : Shape} {members : List (String × Json)} {name : String} {value : Json}
      (listed : (name, value) ∈ members) (inside : Doubled (s.member name) value) :
      Doubled s (.obj members)
  | item {s : Shape} {items : List Json} {position : Nat} {value : Json}
      (placed : items[position]? = some value) (inside : Doubled (s.item position) value) :
      Doubled s (.arr items)

variable {s : Shape} {first second : Json}

/-- No change makes a name be used twice. -/
theorem Step.distinct (step : Step s first second) (distinct : first.Distinct) :
    second.Distinct := by
  induction step with
  | permute perm => exact (Json.distinct_obj_perm perm).1 distinct
  | rename names absent =>
      have ⟨⟨_, value⟩, others⟩ := Json.distinct_obj_middle.1 distinct
      refine Json.distinct_obj_middle.2 ⟨⟨fun listed => absent ?_, value⟩, others⟩
      rw [Members.names_append, List.mem_append] at listed ⊢
      exact listed.imp_right (List.mem_cons_of_mem _)
  | member _ ih =>
      have ⟨⟨fresh, value⟩, others⟩ := Json.distinct_obj_middle.1 distinct
      exact Json.distinct_obj_middle.2 ⟨⟨fresh, ih value⟩, others⟩
  | item _ ih =>
      have ⟨value, others⟩ := Json.distinct_arr_middle.1 distinct
      exact Json.distinct_arr_middle.2 ⟨ih value, others⟩

/-! ## Putting a document in order -/

theorem Rewrites.inMember {front back : List (String × Json)} {name : String} {value held : Json}
    (rewrites : Rewrites (s.member name) value held) :
    Rewrites s (.obj (front ++ (name, value) :: back)) (.obj (front ++ (name, held) :: back)) :=
  Relation.ReflTransGen.lift (fun value => Json.obj (front ++ (name, value) :: back))
    (fun _ _ => Step.member) value held rewrites

theorem Rewrites.inItem {front back : List Json} {value held : Json}
    (rewrites : Rewrites (s.item front.length) value held) :
    Rewrites s (.arr (front ++ value :: back)) (.arr (front ++ held :: back)) :=
  Relation.ReflTransGen.lift (fun value => Json.arr (front ++ value :: back))
    (fun _ _ => Step.item) value held rewrites

mutual

/-- A document can be rewritten to the value that it is parsed to. -/
theorem rewrites_sorted (s : Shape) {document : Json} (distinct : document.Distinct) :
    Rewrites s document document.sorted := by
  cases document with
  | null | bool truth | num number | str text => exact .refl
  | arr items =>
      exact rewrites_sortedItems s [] (Json.distinct_arr.1 distinct)
  | obj members =>
      have ⟨unique, inside⟩ := Json.distinct_obj.1 distinct
      have settled := rewrites_sortedMembers s [] inside
      have names : (Members.names (Json.sortedMembers members)).Nodup := by
        rwa [Members.names, Json.sortedMembers_eq_map, List.map_map]
      exact settled.tail (.permute (Members.ofList_perm names).symm)

/-- The elements are put in order from the front. -/
theorem rewrites_sortedItems (s : Shape) (front : List Json) {items : List Json}
    (distinct : ∀ item ∈ items, item.Distinct) :
    Rewrites s (.arr (front ++ items)) (.arr (front ++ Json.sortedItems items)) := by
  cases items with
  | nil => exact .refl
  | cons item rest =>
      have ⟨own, others⟩ := List.forall_mem_cons.1 distinct
      have first : Rewrites s (.arr (front ++ item :: rest))
          (.arr (front ++ item.sorted :: rest)) := (rewrites_sorted _ own).inItem
      have later := rewrites_sortedItems s (front ++ [item.sorted]) others
      rw [List.append_assoc, List.append_assoc] at later
      exact first.trans later

/-- The values of members are put in order from the front. -/
theorem rewrites_sortedMembers (s : Shape) (front : List (String × Json))
    {members : List (String × Json)} (distinct : ∀ member ∈ members, member.2.Distinct) :
    Rewrites s (.obj (front ++ members)) (.obj (front ++ Json.sortedMembers members)) := by
  cases members with
  | nil => exact .refl
  | cons member rest =>
      obtain ⟨name, value⟩ := member
      have ⟨own, others⟩ := List.forall_mem_cons.1 distinct
      have first : Rewrites s (.obj (front ++ (name, value) :: rest))
          (.obj (front ++ (name, value.sorted) :: rest)) := (rewrites_sorted _ own).inMember
      have later := rewrites_sortedMembers s (front ++ [(name, value.sorted)]) others
      rw [List.append_assoc, List.append_assoc] at later
      exact first.trans later

end

end Shape

end CriteriaSearch
