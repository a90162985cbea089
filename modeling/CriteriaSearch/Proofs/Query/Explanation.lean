import CriteriaSearch.Paging.Basic
import CriteriaSearch.Proofs.Compilation.Clauses
import CriteriaSearch.Proofs.Condition.Spellings
import CriteriaSearch.Proofs.Json.Text

namespace CriteriaSearch

/-!
# The explanation of a request says what its query is

A request is explained by the indented text of its query.  Parsing that text
gives the query back as soon as the query is written as a canonical value, which
is a matter of the names of members: a combination and a range write theirs in
increasing order, and every other object has a single one.  What a query holds
besides these are the values of conditions, and only the ends of ranges can be
containers.
-/

namespace Json

theorem canonical_single {name : String} {value : Json} :
    (obj [(name, value)]).Canonical ↔ value.Canonical := by
  rw [canonical_obj, List.forall_mem_singleton]
  exact and_iff_right (List.pairwise_singleton _ _)

/-- Members are sorted when their names are found in increasing order. -/
theorem sorted_of_sublist {members : List (String × Json)} {names : List String}
    (increasing : names.Pairwise (· < ·)) (among : (members.map Prod.fst).Sublist names) :
    Members.Sorted members :=
  Members.sorted_iff_pairwise_names.2 (increasing.sublist among)

theorem names_toList_map_sublist {α : Type} (name : String) (write : α → Json)
    (value : Option α) :
    ((value.map fun held => (name, write held)).toList.map Prod.fst).Sublist [name] := by
  cases value with
  | none => exact List.nil_sublist _
  | some held => exact List.Sublist.refl _

theorem canonical_of_mem_toList_map {name : String} (text : Option String) :
    ∀ member ∈ (text.map fun s => (name, str s)).toList, member.2.Canonical := by
  intro member among
  rcases Option.map_eq_some_iff.mp (Option.mem_toList.mp among) with ⟨s, -, rfl⟩
  trivial

end Json

namespace RangeClause

theorem canonical_parameters {clause : RangeClause}
    (lower : ∀ bound, clause.lower = some bound → bound.Canonical)
    (upper : ∀ bound, clause.upper = some bound → bound.Canonical) :
    clause.parameters.Canonical := by
  have meant (bound : Option Json) (each : ∀ held, bound = some held → held.Canonical) :
      (bound.getD .null).Canonical := by
    cases bound with
    | none => trivial
    | some held => exact each held rfl
  have increasing : (["format"] ++ ["from", "include_lower", "include_upper"] ++ ["time_zone"] ++
      ["to"]).Pairwise (· < ·) := by decide
  have format := Json.names_toList_map_sublist "format" Json.str clause.format
  have zone := Json.names_toList_map_sublist "time_zone" Json.str clause.timeZone
  refine Json.canonical_obj.2 ⟨Json.sorted_of_sublist increasing ?_, ?_⟩
  · simp only [List.map_append]
    exact ((format.append (List.Sublist.refl _)).append zone).append (List.Sublist.refl _)
  · simp only [List.forall_mem_append, List.forall_mem_cons, List.not_mem_nil, false_imp_iff,
      implies_true, and_true]
    exact ⟨⟨⟨Json.canonical_of_mem_toList_map clause.format, meant clause.lower lower, trivial,
      trivial⟩, Json.canonical_of_mem_toList_map clause.timeZone⟩, meant clause.upper upper⟩

end RangeClause

namespace Query

/-! ## Combinations -/

theorem sources_eq_map (queries : List Query) : sources queries = queries.map source := by
  induction queries with
  | nil => rfl
  | cons query rest ih => rw [sources, ih, List.map_cons]

theorem names_bucketMember_sublist (name : String) (clauses : List Json) :
    ((bucketMember name clauses).map Prod.fst).Sublist [name] := by
  match clauses with
  | [] => exact List.nil_sublist _
  | [_] | _ :: _ :: _ => exact List.Sublist.refl _

theorem canonical_of_mem_bucketMember {name : String} {queries : List Query}
    (each : ∀ query ∈ queries, query.source.Canonical) :
    ∀ member ∈ bucketMember name (sources queries), member.2.Canonical := by
  rw [sources_eq_map]
  match queries with
  | [] => exact List.forall_mem_nil _
  | [single] =>
      exact List.forall_mem_singleton.mpr (each single List.mem_cons_self)
  | first :: second :: rest =>
      refine List.forall_mem_singleton.mpr (Json.canonical_arr.2 ?_)
      intro item among
      have written : item ∈ (first :: second :: rest).map source := among
      rcases List.mem_map.mp written with ⟨query, member, rfl⟩
      exact each query member

/-- A combination of clauses that are written canonically is so, too. -/
theorem canonical_source_bool : Combines fun query => query.source.Canonical := by
  intro query each
  rcases query with ⟨must, should, mustNot, minimum⟩
  have increasing : (["minimum_should_match"] ++ ["must"] ++ ["must_not"] ++ ["should"]).Pairwise
      (· < ·) := by decide
  have written := Json.names_toList_map_sublist "minimum_should_match" Json.str minimum
  rw [source, Json.canonical_single, Json.canonical_obj]
  refine ⟨Json.sorted_of_sublist increasing ?_, ?_⟩
  · simp only [List.map_append]
    exact ((written.append (names_bucketMember_sublist _ _)).append
      (names_bucketMember_sublist _ _)).append (names_bucketMember_sublist _ _)
  · simp only [List.forall_mem_append]
    exact ⟨⟨⟨Json.canonical_of_mem_toList_map minimum, canonical_of_mem_bucketMember (each .must)⟩,
      canonical_of_mem_bucketMember (each .mustNot)⟩, canonical_of_mem_bucketMember (each .should)⟩

theorem canonical_source_range {clause : RangeClause} (parameters : clause.parameters.Canonical) :
    (Query.range clause).source.Canonical := by
  rw [source]
  exact Json.canonical_single.2 (Json.canonical_single.2 parameters)

end Query

/-! ## Conditions -/

theorem Scalar.toJson_canonical (scalar : Scalar) : scalar.toJson.Canonical := by
  cases scalar <;> trivial

theorem Leaf.canonical_source_rangeClause {field : String} {entry : RangeEntry}
    (canonical : ∀ bounds, entry = .bounds bounds → ∀ bound,
      bounds.lower = some bound ∨ bounds.upper = some bound → bound.value.Canonical) :
    ∀ clause ∈ rangeClause field entry, clause.source.Canonical := by
  intro clause made
  cases entry with
  | unset => cases made
  | ignored => cases made
  | bounds bounds =>
      have ends := canonical bounds rfl
      rw [rangeClause] at made
      split at made
      · cases made
      · cases made
        refine Query.canonical_source_range (RangeClause.canonical_parameters ?_ ?_)
        · intro value lower
          rcases Option.map_eq_some_iff.mp lower with ⟨bound, held, rfl⟩
          exact ends bound (Or.inl held)
        · intro value upper
          rcases Option.map_eq_some_iff.mp upper with ⟨bound, held, rfl⟩
          exact ends bound (Or.inr held)

theorem Leaf.canonical_source {test : Leaf} (canonical : test.BoundsCanonical) :
    ∀ clause ∈ test.clauses, clause.source.Canonical := by
  intro clause member
  cases test with
  | terms fields =>
      rcases mem_filterMap_unless member with ⟨⟨field, values⟩, -, -, rfl⟩
      refine Json.canonical_single.2 (Json.canonical_single.2 (Json.canonical_arr.2 ?_))
      intro value among
      rcases List.mem_map.mp among with ⟨scalar, -, rfl⟩
      exact scalar.toJson_canonical
  | range fields =>
      rcases List.mem_filterMap.mp member with ⟨⟨field, entry⟩, listed, made⟩
      exact canonical_source_rangeClause (canonical (field, entry) listed) clause made
  | phrase fields =>
      rcases mem_filterMap_unless member with ⟨⟨field, phrases⟩, -, -, rfl⟩
      apply Query.canonical_source_bool.phraseAlternatives
      intro field text
      exact Json.canonical_single.2 (Json.canonical_single.2 (Json.canonical_single.2 trivial))
  | start fields =>
      rcases mem_filterMap_unless member with ⟨entry, -, -, rfl⟩
      exact Json.canonical_single.2 (Json.canonical_single.2 trivial)
  | pattern fields =>
      rcases mem_filterMap_unless member with ⟨entry, -, -, rfl⟩
      exact Json.canonical_single.2 (Json.canonical_single.2 (Json.canonical_single.2 trivial))
  | presence fields =>
      rcases mem_filterMap_unless member with ⟨field, -, -, rfl⟩
      exact Json.canonical_single.2 (Json.canonical_single.2 trivial)

theorem Condition.canonical_source {condition : Condition} (canonical : condition.BoundsCanonical) :
    ∀ clause ∈ condition.clauses, clause.source.Canonical := by
  induction canonical with
  | leaf canonical =>
      rw [clauses]
      exact Leaf.canonical_source canonical
  | group each ih => exact Query.canonical_source_bool.group ih

/-! ## Whole queries -/

theorem Compiler.canonical_source_dateClause (compiler : Compiler) (window : DateWindow)
    (zone : String) : (compiler.dateClause window zone).source.Canonical := by
  refine Query.canonical_source_range (RangeClause.canonical_parameters ?_ ?_)
  · intro bound lower
    cases lower
    trivial
  · intro bound upper
    cases upper
    trivial

theorem Compiler.canonical_source_compile (compiler : Compiler) {conditions : List Condition}
    (canonical : ∀ condition ∈ conditions, condition.BoundsCanonical) (window : DateWindow)
    (zone : Option String) (localZone : String) :
    (compiler.compile conditions window zone localZone).source.Canonical := by
  refine Query.canonical_source_bool _ ?_
  intro logic clause member
  rw [bucket_compile, List.mem_append] at member
  rcases member with dates | gathered
  · rw [dateClauses_eq] at dates
    split at dates
    · split at dates
      · rw [List.mem_singleton.mp dates]
        exact compiler.canonical_source_dateClause window _
      · cases dates
    · cases dates
  · have each : ∀ condition ∈ conditions, ∀ part ∈ condition.clauses, part.source.Canonical :=
      fun condition listed => Condition.canonical_source (canonical condition listed)
    exact Condition.forall_mem_bucket_gather each clause gathered

namespace Paging

/-- The explanation of a request is a JSON text, and parsing it gives back the
query that the request is compiled to. -/
theorem explain_parses_to_source {paging : Paging} {compiler : Compiler}
    {defaultZone : Option String} {localZone : String} {query : BoolQuery}
    (compiled : paging.compile compiler defaultZone localZone = .ok query)
    (canonical : ∀ condition ∈ paging.conditions, condition.BoundsCanonical)
    (back : ∀ x ∈ query.source.doubles, x.ReadsBack) :
    ∃ text, paging.explain compiler defaultZone localZone = .ok text ∧
      ∀ room, query.source.depth ≤ room → Json.parseWithin? room text = some query.source := by
  have held : query.source.Canonical := by
    rcases Decode.bind_eq_ok.1 compiled with ⟨zone, -, built⟩
    cases built
    exact compiler.canonical_source_compile canonical paging.dates (some zone) localZone
  refine ⟨query.source.indented, ?_, ?_⟩
  · rw [explain, compiled]
    rfl
  · intro room depth
    exact Json.parseWithin?_indented held back depth

/-- A request with a name that is not plain, a double, and a range that ends in
an object. -/
theorem explain_parses_to_source_nested :
    let half : Binary64 := ⟨false, ⟨1022 * Binary64.binade, by decide⟩⟩
    let named : Leaf := .terms (FieldMap.empty.insert "naïve \"\x01\\"
      [.text "größe\n", .number (.real half), .number (.integer ⟨-7, by decide, by decide⟩)])
    let bounds : Bounds := {
      lower := some ⟨.obj [("at", .arr []), ("to", .null)], nofun⟩
      upper := none
      includeLower := true
      includeUpper := false }
    let paging : Paging := {
      conditions := [.leaf .must named,
        .group .should [.leaf .mustNot (.range (FieldMap.empty.insert "" (.bounds bounds)))]] }
    ∃ query, paging.compile {} none "UTC" = .ok query ∧
      (∀ condition ∈ paging.conditions, condition.BoundsCanonical) ∧
      (∀ x ∈ query.source.doubles, x.ReadsBack) ∧
      ∃ text, paging.explain {} none "UTC" = .ok text ∧
        ∀ room, query.source.depth ≤ room → Json.parseWithin? room text = some query.source := by
  intro half named bounds paging
  let query := Compiler.compile {} paging.conditions {} (some "UTC") "UTC"
  have compiled : paging.compile {} none "UTC" = .ok query := rfl
  have ends : (Leaf.range (FieldMap.empty.insert "" (.bounds bounds))).BoundsCanonical := by
    intro entry listed held same bound given
    rw [List.mem_singleton.mp listed] at same
    cases same
    rcases given with lower | upper
    · cases lower
      refine ⟨?_, trivial, trivial, trivial⟩
      exact Members.sorted_iff_pairwise_names.2 (by decide : ["at", "to"].Pairwise (· < ·))
    · cases upper
  have canonical : ∀ condition ∈ paging.conditions, condition.BoundsCanonical := by
    refine List.forall_mem_cons.mpr ⟨.leaf trivial, List.forall_mem_singleton.mpr (.group ?_)⟩
    exact List.forall_mem_singleton.mpr (.leaf ends)
  have doubles : query.source.doubles = [half] := rfl
  have back : ∀ x ∈ query.source.doubles, x.ReadsBack := by
    rw [doubles, List.forall_mem_singleton]
    unfold Binary64.ReadsBack
    decide +kernel
  exact ⟨query, compiled, canonical, back, explain_parses_to_source compiled canonical back⟩

end Paging

end CriteriaSearch
