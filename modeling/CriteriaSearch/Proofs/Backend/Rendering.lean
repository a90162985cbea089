import CriteriaSearch.Backend.Request
import CriteriaSearch.Proofs.Query.Rendering

namespace CriteriaSearch

/-!
# What the body of a request tells about the request

Every part of a request can be read back from its body: the query up to bounds
that hold null, both lists of the filter, the sort keys in their order, and the
window or the size of a batch.  The numbers are read back as long as they fit
machine words, which is what requests are made of; beyond that a number would
be written as a double and lose digits.
-/

namespace Json

private theorem strings_injective : Function.Injective strings := by
  intro a b same
  exact (List.map_inj_right fun _ _ => Json.str.inj).mp (Json.arr.inj same)

private theorem exists_ofNat_eq {n : Nat} (fits : n < UInt64.size) :
    ∃ word : WordInt, ofNat n = .num (.integer word) ∧ word.val = n := by
  have range : -9223372036854775808 ≤ (n : Int) ∧ (n : Int) < 18446744073709551616 := by
    unfold UInt64.size at fits
    omega
  refine ⟨⟨n, range.1, range.2⟩, ?_, rfl⟩
  rw [ofNat, ofInt, WordInt.ofInt?, dif_pos range]

/-- Numbers that fit words are written apart. -/
theorem eq_of_ofNat_eq {a b : Nat} (fits : a < UInt64.size) (fits' : b < UInt64.size)
    (same : ofNat a = ofNat b) : a = b := by
  rcases exists_ofNat_eq fits with ⟨word, written, value⟩
  rcases exists_ofNat_eq fits' with ⟨word', written', value'⟩
  rw [written, written'] at same
  cases same
  exact Int.ofNat_inj.mp (value.symm.trans value')

end Json

theorem SortKey.toJson_injective : Function.Injective SortKey.toJson := by
  intro a b same
  rcases a with ⟨field, ascending⟩
  rcases b with ⟨field', ascending'⟩
  simp only [toJson, Json.obj.injEq, Json.str.injEq, List.cons.injEq, Prod.mk.injEq, true_and,
    and_true] at same
  rcases same with ⟨rfl, order⟩
  cases ascending with
  | true =>
      cases ascending' with
      | true => rfl
      | false => simp at order
  | false =>
      cases ascending' with
      | true => simp at order
      | false => rfl

namespace SourceFilter

/-- What a list of the filter is written as, unless it is empty. -/
private def listed? (texts : List String) : Option Json :=
  if texts.isEmpty then none else some (Json.strings texts)

private theorem eq_of_listed?_eq {a b : List String} (same : listed? a = listed? b) : a = b := by
  match a, b with
  | [], [] => rfl
  | [], _ :: _ | _ :: _, [] => cases same
  | _ :: _, _ :: _ => exact Json.strings_injective (Option.some.inj same)

private theorem member?_toJson (filter : SourceFilter) :
    filter.toJson.member? "includes" = listed? filter.includes ∧
      filter.toJson.member? "excludes" = listed? filter.excludes := by
  rcases filter with ⟨includes, excludes⟩
  match includes, excludes with
  | [], [] | [], _ :: _ | _ :: _, [] | _ :: _, _ :: _ => exact ⟨rfl, rfl⟩

/-- A written filter tells both of its lists. -/
theorem toJson_eq_toJson_iff (a b : SourceFilter) :
    a.toJson = b.toJson ↔ a.includes = b.includes ∧ a.excludes = b.excludes := by
  constructor
  · intro same
    have includes := (member?_toJson a).1
    have excludes := (member?_toJson a).2
    rw [same, (member?_toJson b).1] at includes
    rw [same, (member?_toJson b).2] at excludes
    exact ⟨(eq_of_listed?_eq includes).symm, (eq_of_listed?_eq excludes).symm⟩
  · rintro ⟨includes, excludes⟩
    rw [toJson, toJson, includes, excludes]

end SourceFilter

namespace SearchRequest

/-- The window of the request is given by machine words. -/
def FitsWords (request : SearchRequest) : Prop :=
  request.start < UInt64.size ∧ request.size < UInt64.size

private theorem sort_eq_of_member_eq {a b : List SortKey}
    (same : (if a.isEmpty then [] else [("sort", Json.arr (a.map SortKey.toJson))]) =
      if b.isEmpty then [] else [("sort", Json.arr (b.map SortKey.toJson))]) : a = b := by
  match a, b with
  | [], [] => rfl
  | [], _ :: _ | _ :: _, [] => cases same
  | _ :: _, _ :: _ =>
      have keys := Json.arr.inj (Prod.mk.inj (List.cons.inj same).1).2
      exact (List.map_inj_right fun _ _ equal => SortKey.toJson_injective equal).mp keys

theorem body_eq_body_iff {a b : SearchRequest} (fits : a.FitsWords) (fits' : b.FitsWords) :
    a.body = b.body ↔
      a.query.normal = b.query.normal ∧ a.filter.includes = b.filter.includes ∧
        a.filter.excludes = b.filter.excludes ∧ a.sort = b.sort ∧ a.start = b.start ∧
        a.size = b.size := by
  constructor
  · intro same
    simp only [body, List.cons_append, List.nil_append, Json.obj.injEq, List.cons.injEq,
      Prod.mk.injEq, true_and] at same
    rcases same with ⟨filters, starts, queries, sizes, rest⟩
    rcases (SourceFilter.toJson_eq_toJson_iff _ _).mp filters with ⟨includes, excludes⟩
    exact ⟨(Query.source_eq_source_iff _ _).mp queries, includes, excludes,
      sort_eq_of_member_eq (List.append_cancel_right rest),
      Json.eq_of_ofNat_eq fits.1 fits'.1 starts, Json.eq_of_ofNat_eq fits.2 fits'.2 sizes⟩
  · rintro ⟨queries, includes, excludes, sorts, starts, sizes⟩
    rw [body, body, (SourceFilter.toJson_eq_toJson_iff _ _).mpr ⟨includes, excludes⟩,
      (Query.source_eq_source_iff _ _).mpr queries, sorts, starts, sizes]

end SearchRequest

namespace ScrollRequest

/-- The size of a batch is given by a machine word. -/
def FitsWords (request : ScrollRequest) : Prop :=
  request.size < UInt64.size

theorem body_eq_body_iff {a b : ScrollRequest} (fits : a.FitsWords) (fits' : b.FitsWords) :
    a.body = b.body ↔
      a.query.normal = b.query.normal ∧ a.filter.includes = b.filter.includes ∧
        a.filter.excludes = b.filter.excludes ∧ a.size = b.size := by
  constructor
  · intro same
    simp only [body, Json.obj.injEq, List.cons.injEq, Prod.mk.injEq, true_and, and_true] at same
    rcases same with ⟨filters, queries, sizes⟩
    rcases (SourceFilter.toJson_eq_toJson_iff _ _).mp filters with ⟨includes, excludes⟩
    exact ⟨(Query.source_eq_source_iff _ _).mp queries, includes, excludes,
      Json.eq_of_ofNat_eq fits fits' sizes⟩
  · rintro ⟨queries, includes, excludes, sizes⟩
    rw [body, body, (SourceFilter.toJson_eq_toJson_iff _ _).mpr ⟨includes, excludes⟩,
      (Query.source_eq_source_iff _ _).mpr queries, sizes]

end ScrollRequest

/-- Nothing gets lost in writing.  Queries are written alike only where they
agree but for bounds that hold null, and requests only where their queries
agree in that sense and all that the body is about is the same. -/
theorem written_eq_iff :
    (∀ a b : Query, a.source = b.source ↔ a.normal = b.normal) ∧
      (∀ a b : SearchRequest, a.FitsWords → b.FitsWords →
        (a.body = b.body ↔
          a.query.normal = b.query.normal ∧ a.filter.includes = b.filter.includes ∧
            a.filter.excludes = b.filter.excludes ∧ a.sort = b.sort ∧ a.start = b.start ∧
            a.size = b.size)) ∧
      ∀ a b : ScrollRequest, a.FitsWords → b.FitsWords →
        (a.body = b.body ↔
          a.query.normal = b.query.normal ∧ a.filter.includes = b.filter.includes ∧
            a.filter.excludes = b.filter.excludes ∧ a.size = b.size) := by
  refine ⟨Query.source_eq_source_iff, ?_, ?_⟩
  · intro a b fits fits'
    exact SearchRequest.body_eq_body_iff fits fits'
  · intro a b fits fits'
    exact ScrollRequest.body_eq_body_iff fits fits'

/-- A range inside a combination, with a lower bound as given. -/
def Query.boundedBelow (lower : Option Json) : Query :=
  .bool { should := [.range { field := "age", lower }] }

/-- A lower bound that holds null is written like none, and another one is not. -/
theorem written_eq_iff_boundedBelow :
    (⟨.boundedBelow (some .null), {}, [⟨"age", true⟩], 5, 20⟩ : SearchRequest).body =
        (⟨.boundedBelow none, {}, [⟨"age", true⟩], 5, 20⟩ : SearchRequest).body ∧
      (⟨.boundedBelow (some .null), {}, 20, "1m"⟩ : ScrollRequest).body ≠
        (⟨.boundedBelow (some (.bool true)), {}, 20, "1m"⟩ : ScrollRequest).body := by
  have searchFits (query : Query) :
      (⟨query, {}, [⟨"age", true⟩], 5, 20⟩ : SearchRequest).FitsWords :=
    ⟨(by decide : 5 < UInt64.size), (by decide : 20 < UInt64.size)⟩
  have scrollFits (query : Query) : (⟨query, {}, 20, "1m"⟩ : ScrollRequest).FitsWords :=
    (by decide : 20 < UInt64.size)
  constructor
  · exact (written_eq_iff.2.1 _ _ (searchFits _) (searchFits _)).mpr ⟨rfl, rfl, rfl, rfl, rfl, rfl⟩
  · intro same
    have agree := ((written_eq_iff.2.2 _ _ (scrollFits _) (scrollFits _)).mp same).1
    cases agree

end CriteriaSearch
