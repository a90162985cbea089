import CriteriaSearch.Backend.Memory
import CriteriaSearch.Proofs.Json.Order
import CriteriaSearch.Proofs.Search.Agreement

namespace CriteriaSearch

/-!
# Shaping the hits of an answer

A bounded request is answered with hits, and each of them is shaped by itself.
The documents come in the order of the hits, and the first hit that cannot be
shaped takes the place of all of them.  What the hits behind it would have
come to does not matter.

The transform that searches use by themselves changes one member of a source.
It is looked at member by member here, so that what it keeps can be told
apart from what it sets.
-/

/-- The members of the source of a hit; there are none without a source. -/
def Hit.members (hit : Hit) : List (String × Json) :=
  match hit.source with
  | .obj members => members
  | _ => []

/-- The source of a hit with its identifier as the member `_id`. -/
def Hit.identified (hit : Hit) : Json :=
  .obj (Members.insert "_id" (.str hit.id) hit.members)

/-- The source of a hit is an object, or there is none. -/
def Hit.IsObject (hit : Hit) : Prop :=
  hit.source = .null ∨ ∃ members, hit.source = .obj members

/-- A document that shows a hit: it has the identifier of the hit as its member
`_id`, and all its other members are those of the source. -/
inductive Hit.ShownAs (hit : Hit) : Json → Prop
  | object {members : List (String × Json)}
      (identifier : Members.find? "_id" members = some (.str hit.id))
      (others : ∀ name, name ≠ "_id" →
        Members.find? name members = Members.find? name hit.members)
      (canonical : hit.source.Canonical → (Json.obj members).Canonical) :
      ShownAs hit (.obj members)

/-- What a transform makes of hits: a document of each one in their order, or
what happened at the first hit that it makes no document of. -/
inductive Transform.Yields {α : Type} (transform : Transform α) :
    List Hit → Except SearchError (List α) → Prop
  | docs {hits : List Hit} {docs : List α}
      (each : List.Forall₂ (fun hit doc => transform hit = .doc doc) hits docs) :
      Yields transform hits (.ok docs)
  | failed {front back : List Hit} {hit : Hit} {cause : Failure}
      (before : ∀ earlier ∈ front, ∃ doc, transform earlier = .doc doc)
      (fails : transform hit = .failed cause) :
      Yields transform (front ++ hit :: back) (.error (.transform cause))
  | crashed {front back : List Hit} {hit : Hit}
      (before : ∀ earlier ∈ front, ∃ doc, transform earlier = .doc doc)
      (crashes : transform hit = .crashed) :
      Yields transform (front ++ hit :: back) (.error .crashed)

/-! ## Any transform -/

namespace Transform

variable {α : Type} {transform : Transform α} {hit : Hit} {hits front back : List Hit}

theorem all_cons_of_doc {doc : α} (shaped : transform hit = .doc doc) :
    transform.all (hit :: hits) = (transform.all hits).map (doc :: ·) := by
  rw [all, one, shaped]
  cases transform.all hits <;> rfl

theorem all_append_of_error {problem : SearchError}
    (before : ∀ earlier ∈ front, ∃ doc, transform earlier = .doc doc)
    (fails : transform.one hit = .error problem) :
    transform.all (front ++ hit :: back) = .error problem := by
  induction front with
  | nil =>
      rw [List.nil_append, all, fails]
      rfl
  | cons earlier front ih =>
      rcases before earlier List.mem_cons_self with ⟨doc, shaped⟩
      rw [List.cons_append, all_cons_of_doc shaped,
        ih fun other listed => before other (List.mem_cons_of_mem earlier listed)]
      rfl

theorem Yields.cons {doc : α} {outcome : Except SearchError (List α)}
    (shaped : transform hit = .doc doc) (yields : transform.Yields hits outcome) :
    transform.Yields (hit :: hits) (outcome.map (doc :: ·)) := by
  have before {front : List Hit} (rest : ∀ earlier ∈ front, ∃ doc, transform earlier = .doc doc) :
      ∀ earlier ∈ hit :: front, ∃ doc, transform earlier = .doc doc :=
    List.forall_mem_cons.2 ⟨⟨doc, shaped⟩, rest⟩
  cases yields with
  | docs each => exact .docs (.cons shaped each)
  | @failed front back first _ earlier fails =>
      change transform.Yields ((hit :: front) ++ first :: back) _
      exact .failed (before earlier) fails
  | @crashed front back first earlier crashes =>
      change transform.Yields ((hit :: front) ++ first :: back) _
      exact .crashed (before earlier) crashes

/-- The hits of a list are shaped in their order, up to the first that fails. -/
theorem yields_iff {outcome : Except SearchError (List α)} :
    transform.Yields hits outcome ↔ transform.all hits = outcome := by
  constructor
  · intro yields
    cases yields with
    | docs each =>
        induction each with
        | nil => rfl
        | cons shaped _ ih =>
            rw [all_cons_of_doc shaped, ih]
            rfl
    | failed before fails => exact all_append_of_error before (by rw [one, fails])
    | crashed before crashes => exact all_append_of_error before (by rw [one, crashes])
  · rintro rfl
    induction hits with
    | nil => exact .docs .nil
    | cons hit rest ih =>
        cases shaped : transform hit with
        | doc doc =>
            rw [all_cons_of_doc shaped]
            exact ih.cons shaped
        | failed cause =>
            rw [all, one, shaped, ← List.nil_append (hit :: rest)]
            exact .failed nofun shaped
        | crashed =>
            rw [all, one, shaped, ← List.nil_append (hit :: rest)]
            exact .crashed nofun shaped

/-! ## Sources with their identifiers -/

theorem sourceWithId_of_object (object : hit.IsObject) :
    sourceWithId hit = .doc hit.identified := by
  rcases hit with ⟨id, source⟩
  rcases object with rfl | ⟨members, rfl⟩
  · rfl
  · rfl

theorem sourceWithId_of_not_object (other : ¬ hit.IsObject) :
    sourceWithId hit =
      .failed ⟨s!"source of {hit.id} is not an object: {hit.source.compact}"⟩ := by
  rcases hit with ⟨id, source⟩
  cases source with
  | null => exact absurd (.inl rfl) other
  | obj members => exact absurd (.inr ⟨members, rfl⟩) other
  | bool | num | str | arr => rfl

theorem all_sourceWithId (objects : ∀ hit ∈ hits, hit.IsObject) :
    sourceWithId.all hits = .ok (hits.map Hit.identified) := by
  refine yields_iff.1 (.docs ?_)
  rw [List.forall₂_map_right_iff, List.forall₂_same]
  exact fun hit listed => sourceWithId_of_object (objects hit listed)

end Transform

/-- One member is set, and nothing else is changed. -/
theorem Hit.shownAs_identified (hit : Hit) : hit.ShownAs hit.identified := by
  refine .object (Members.find?_insert_self _ _ _)
    (fun name different => Members.find?_insert_of_ne different _ _) fun canonical => ?_
  have members : (Json.obj hit.members).Canonical := by
    rcases hit with ⟨id, source⟩
    cases source with
    | obj members => exact canonical
    | null | bool | num | str | arr => exact Json.canonical_obj.2 ⟨.nil, nofun⟩
  rw [Json.canonical_obj] at members ⊢
  refine ⟨Members.sorted_insert members.1, fun member listed => ?_⟩
  rcases Members.mem_insert listed with rfl | before
  · trivial
  · exact members.2 member before

/-- Of hits that are not all objects, there is a first one that is none. -/
theorem Hit.exists_first_of_not_objects {hits : List Hit}
    (mixed : ¬ ∀ hit ∈ hits, hit.IsObject) :
    ∃ front hit back, hits = front ++ hit :: back ∧ (∀ earlier ∈ front, earlier.IsObject) ∧
      ¬ hit.IsObject := by
  induction hits with
  | nil => exact absurd nofun mixed
  | cons hit rest ih =>
      by_cases object : hit.IsObject
      · rcases ih fun objects => mixed (List.forall_mem_cons.2 ⟨object, objects⟩) with
          ⟨front, first, back, rfl, before, other⟩
        exact ⟨hit :: front, first, back, rfl, List.forall_mem_cons.2 ⟨object, before⟩, other⟩
      · exact ⟨[], hit, rest, rfl, nofun, object⟩

/-! ## Bounded requests -/

namespace Search

variable {σ : Type} {search : Search σ} {paging : Paging} {query : BoolQuery}
  {found : SearchHits} {before after : σ}

/-- What a bounded request comes to when its search is answered: the hits in
their order, one document for each, or the complaint about the first hit whose
source is no object. -/
structure ShowsHits (search : Search σ) [search.backend.Finite] (paging : Paging)
    (found : SearchHits) (before after : σ) : Prop where
  page : (∀ hit ∈ found.hits, hit.IsObject) →
    ∃ page, search.page paging before = (.ok page, after) ∧ page.total = found.total ∧
      List.Forall₂ Hit.ShownAs found.hits page.docs
  list : (∀ hit ∈ found.hits, hit.IsObject) →
    ∃ docs, search.list paging before = (.ok docs, after) ∧
      List.Forall₂ Hit.ShownAs found.hits docs
  refused : (¬ ∀ hit ∈ found.hits, hit.IsObject) →
    ∃ front hit back, found.hits = front ++ hit :: back ∧
      (∀ earlier ∈ front, earlier.IsObject) ∧ ¬ hit.IsObject ∧
      let problem := SearchError.transform
        ⟨s!"source of {hit.id} is not an object: {hit.source.compact}"⟩
      search.page paging before = (.error problem, after) ∧
        search.list paging before = (.error problem, after)
  shaped : ∀ (α : Type) (transform : Transform α) (outcome : Except SearchError (List α)),
    search.listWith transform paging before = (outcome, after) ↔
      transform.Yields found.hits outcome

theorem fetchPage_of_answered {α : Type} {request : SearchRequest}
    (answered : search.backend.search request before = (.ok found, after))
    (transform : Transform α) :
    search.fetchPage transform request before =
      ((transform.all found.hits).map (Prod.mk found.total), after) := by
  rw [fetchPage, answered]
  change (transform.all found.hits >>= fun docs => pure (found.total, docs), after) = _
  cases transform.all found.hits <;> rfl

variable [search.backend.Finite]

/-- Whatever a bounded search is answered with, its hits are shown in their
order, or the first that cannot be shown is reported. -/
theorem shows_hits_in_order (compiled : search.compile paging = .ok query)
    (bounded : paging.isUnbounded search.settings.maxPageWindow = false)
    (answered : search.backend.search (searchRequest paging query) before = (.ok found, after)) :
    search.ShowsHits paging found before after := by
  have listed {α : Type} (transform : Transform α) :
      search.listWith transform paging before = (transform.all found.hits, after) := by
    rw [listWith_of_bounded compiled bounded, fetchPage_of_answered answered]
    cases transform.all found.hits <;> rfl
  have fetched := page_of_bounded compiled bounded before
  rw [fetchPage_of_answered answered] at fetched
  have shown : List.Forall₂ Hit.ShownAs found.hits (found.hits.map Hit.identified) := by
    rw [List.forall₂_map_right_iff, List.forall₂_same]
    exact fun hit _ => hit.shownAs_identified
  constructor
  · intro objects
    rw [Transform.all_sourceWithId objects] at fetched
    exact ⟨_, fetched, rfl, shown⟩
  · intro objects
    refine ⟨_, ?_, shown⟩
    rw [list, listed, Transform.all_sourceWithId objects]
  · intro mixed
    rcases Hit.exists_first_of_not_objects mixed with ⟨front, hit, back, split, objects, other⟩
    have failed : Transform.sourceWithId.all found.hits = .error (.transform
        ⟨s!"source of {hit.id} is not an object: {hit.source.compact}"⟩) := by
      rw [split]
      refine Transform.yields_iff.1 (.failed (fun earlier among => ?_)
        (Transform.sourceWithId_of_not_object other))
      exact ⟨_, Transform.sourceWithId_of_object (objects earlier among)⟩
    refine ⟨front, hit, back, split, objects, other, ?_, ?_⟩
    · rw [failed] at fetched
      exact fetched
    · rw [list, listed, failed]
  · intro α transform outcome
    rw [listed, Transform.yields_iff, Prod.mk.injEq]
    exact and_iff_left rfl

/-- A window in front of a source that is no object, and one that reaches it. -/
theorem shows_hits_in_order_index :
    let first : Hit := { id := "a", source := .obj [("_id", .null), ("n", .bool true)] }
    let second : Hit := { id := "b" }
    let third : Hit := { id := "c", source := .bool true }
    let index : MemoryIndex := { docs := [first, second, third], total := 9 }
    let search : Search MemoryIndex.State := { backend := index.backend, localZone := "UTC" }
    ∃ query,
      let after : MemoryIndex.State :=
        { seen := [.search (searchRequest { limit := 2 } query).body] }
      let afterAll : MemoryIndex.State :=
        { seen := [.search (searchRequest { limit := 3 } query).body] }
      search.ShowsHits { limit := 2 } ⟨9, [first, second]⟩ {} after ∧
        search.ShowsHits { limit := 3 } ⟨9, [first, second, third]⟩ {} afterAll := by
  intro first second third index search
  have compiled : ∃ query, search.compile { limit := 2 } = .ok query := ⟨_, rfl⟩
  rcases compiled with ⟨query, compiled⟩
  refine ⟨query, ?_, ?_⟩
  · exact shows_hits_in_order compiled (by decide) rfl
  · have compiledAll : search.compile { limit := 3 } = .ok query := compiled
    exact shows_hits_in_order compiledAll (by decide) rfl

end Search

end CriteriaSearch
