import CriteriaSearch.Query.Basic
import Mathlib.Data.Option.Basic

namespace CriteriaSearch

/-!
# What a written query tells about the query

The language of the engine writes a bucket of a combination in three shapes,
and it leaves out what is not set.  None of this is ambiguous: a clause is
always written as an object, so a bucket of one clause cannot be taken for a
list, and the names of the members tell the parts of a clause from each other.
Only a bound of a range that holds null is written like a bound that is not
there.

`Query.normal` takes such bounds away, at any depth.  Two queries are written
alike exactly when they agree after that.  One half is that normalization does
not show in the text; the other follows the constructors of a query, and for a
combination it reads the four parts back one by one.
-/

/-! ## Ranges -/

namespace RangeClause

/-- The bound that is meant: null stands for no bound. -/
def meant : Option Json → Option Json
  | some .null => none
  | bound => bound

/-- The clause without bounds that hold null. -/
def normal (clause : RangeClause) : RangeClause :=
  { clause with lower := meant clause.lower, upper := meant clause.upper }

private theorem getD_meant (bound : Option Json) :
    (meant bound).getD .null = bound.getD .null := by
  unfold meant
  split <;> rfl

private theorem meant_eq_of_getD_eq {a b : Option Json} (same : a.getD .null = b.getD .null) :
    meant a = meant b := by
  have told (bound : Option Json) : meant bound = meant (some (bound.getD .null)) := by
    cases bound <;> rfl
  rw [told a, told b, same]

theorem parameters_normal (clause : RangeClause) :
    clause.normal.parameters = clause.parameters := by
  simp only [parameters, normal, getD_meant]

/-- The parameters of a range tell everything about it but the field. -/
theorem normal_eq_of_parameters_eq {a b : RangeClause} (field : a.field = b.field)
    (same : a.parameters = b.parameters) : a.normal = b.normal := by
  have agree (name : String) : a.parameters.member? name = b.parameters.member? name :=
    congrArg (Json.member? · name) same
  have format := agree "format"
  have lower := agree "from"
  have includeLower := agree "include_lower"
  have includeUpper := agree "include_upper"
  have timeZone := agree "time_zone"
  have upper := agree "to"
  simp only [Json.member?, parameters, List.append_assoc, List.cons_append, List.nil_append,
    Members.find?_append, Members.find?_toList_map, Members.find?, ↓reduceIte, String.reduceEq,
    Option.or_self, Option.or_none, Option.none_or, Option.or_some, Option.getD_none,
    Option.some.injEq, Json.bool.injEq] at format lower includeLower includeUpper timeZone upper
  have texts : Function.Injective (Option.map Json.str) :=
    Option.map_injective fun _ _ => Json.str.inj
  rw [normal, normal, field, texts format, meant_eq_of_getD_eq lower, includeLower,
    includeUpper, texts timeZone, meant_eq_of_getD_eq upper]

end RangeClause

namespace Query

/-! ## Normal queries -/

mutual

/-- The query without bounds that hold null. -/
def normal : Query → Query
  | .bool ⟨must, should, mustNot, minimum⟩ =>
    .bool ⟨normals must, normals should, normals mustNot, minimum⟩
  | .range clause => .range clause.normal
  | .scored query script => .scored query.normal script
  | .terms field values => .terms field values
  | .phrase field text => .phrase field text
  | .start field text => .start field text
  | .pattern field text => .pattern field text
  | .presence field => .presence field

/-- Several queries without bounds that hold null. -/
def normals : List Query → List Query
  | [] => []
  | query :: rest => query.normal :: normals rest

end

mutual

/-- A query is written like its normal form. -/
theorem source_normal : (query : Query) → query.normal.source = query.source
  | .bool ⟨must, should, mustNot, minimum⟩ => by
    simp only [normal, source, sources_normals]
  | .range clause => by
    simp only [normal, source, RangeClause.parameters_normal]
    rfl
  | .scored query script => by rw [normal, source, source, source_normal query]
  | .terms _ _ | .phrase _ _ | .start _ _ | .pattern _ _ | .presence _ => by rw [normal]

theorem sources_normals : (queries : List Query) → sources (normals queries) = sources queries
  | [] => rfl
  | query :: rest => by rw [normals, sources, sources, source_normal query, sources_normals rest]

end

/-! ## The parts of a combination -/

/-- What a bucket of written clauses is written as, unless it is empty. -/
def bucketValue? : List Json → Option Json
  | [] => none
  | [single] => some single
  | many => some (.arr many)

theorem find?_bucketMember (name other : String) (clauses : List Json) :
    Members.find? name (bucketMember other clauses) =
      if other = name then bucketValue? clauses else none := by
  match clauses with
  | [] => exact (ite_self none).symm
  | [_] | _ :: _ :: _ => rfl

theorem source_ne_arr (query : Query) (items : List Json) : query.source ≠ .arr items := by
  cases query with
  | bool clauses =>
      rcases clauses with ⟨must, should, mustNot, minimum⟩
      exact Json.noConfusion
  | _ => exact Json.noConfusion

/-- A bucket of queries can be read back, because no clause is a list. -/
theorem sources_eq_of_bucketValue?_eq {a b : List Query}
    (same : bucketValue? (sources a) = bucketValue? (sources b)) : sources a = sources b := by
  match a, b with
  | [], [] => rfl
  | [], [_] | [], _ :: _ :: _ | [_], [] | _ :: _ :: _, [] => cases same
  | [first], [other] => exact congrArg ([·]) (Option.some.inj same)
  | [first], _ :: _ :: _ => exact absurd (Option.some.inj same) (source_ne_arr first _)
  | _ :: _ :: _, [other] => exact absurd (Option.some.inj same).symm (source_ne_arr other _)
  | _ :: _ :: _, _ :: _ :: _ => exact Json.arr.inj (Option.some.inj same)

/-- A written combination tells its buckets and its number of matches. -/
theorem parts_eq_of_source_eq {a b : BoolQuery}
    (same : (Query.bool a).source = (Query.bool b).source) :
    sources a.must = sources b.must ∧ sources a.should = sources b.should ∧
      sources a.mustNot = sources b.mustNot ∧ a.minimumShouldMatch = b.minimumShouldMatch := by
  rcases a with ⟨must, should, mustNot, minimum⟩
  rcases b with ⟨must', should', mustNot', minimum'⟩
  have body := (Prod.mk.inj (List.cons.inj (Json.obj.inj same)).1).2
  have agree (name : String) := congrArg (Json.member? · name) body
  have minimums := agree "minimum_should_match"
  have musts := agree "must"
  have mustNots := agree "must_not"
  have shoulds := agree "should"
  simp only [Json.member?, List.append_assoc, Members.find?_append, Members.find?_toList_map,
    find?_bucketMember, ↓reduceIte, String.reduceEq, Option.or_self, Option.or_none,
    Option.none_or] at minimums musts mustNots shoulds
  refine ⟨sources_eq_of_bucketValue?_eq musts, sources_eq_of_bucketValue?_eq shoulds,
    sources_eq_of_bucketValue?_eq mustNots, ?_⟩
  exact Option.map_injective (fun _ _ => Json.str.inj) minimums

/-! ## Reading queries back -/

mutual

/-- Queries that are written alike agree, but for bounds that hold null. -/
theorem normal_eq_of_source_eq : (a b : Query) → a.source = b.source → a.normal = b.normal
  | .bool ⟨must, should, mustNot, minimum⟩, other, same => by
    cases other with
    | bool clauses =>
        rcases clauses with ⟨must', should', mustNot', minimum'⟩
        rcases parts_eq_of_source_eq same with ⟨musts, shoulds, mustNots, rfl⟩
        rw [normal, normal, normals_eq_of_sources_eq must must' musts,
          normals_eq_of_sources_eq should should' shoulds,
          normals_eq_of_sources_eq mustNot mustNot' mustNots]
    | _ => simp [source] at same
  | .range clause, other, same => by
    cases other with
    | range clause' =>
        simp only [source, Json.obj.injEq, List.cons.injEq, Prod.mk.injEq, true_and,
          and_true] at same
        rw [normal, normal, RangeClause.normal_eq_of_parameters_eq same.1 same.2]
    | _ => simp [source] at same
  | .scored query script, other, same => by
    cases other with
    | scored query' script' =>
        simp only [source, Json.obj.injEq, Json.arr.injEq, Json.str.injEq, List.cons.injEq,
          Prod.mk.injEq, true_and, and_true] at same
        rw [normal, normal, same.1, normal_eq_of_source_eq query query' same.2]
    | _ => simp [source] at same
  | .terms field values, other, same => by
    cases other with
    | terms =>
        simp only [source, Json.obj.injEq, Json.arr.injEq, List.cons.injEq, Prod.mk.injEq,
          true_and, and_true] at same
        rw [same.1, same.2]
    | _ => simp [source] at same
  | .phrase field text, other, same => by
    cases other with
    | phrase =>
        simp only [source, Json.obj.injEq, Json.str.injEq, List.cons.injEq, Prod.mk.injEq,
          true_and, and_true] at same
        rw [same.1, same.2]
    | _ => simp [source] at same
  | .start field text, other, same => by
    cases other with
    | start =>
        simp only [source, Json.obj.injEq, Json.str.injEq, List.cons.injEq, Prod.mk.injEq,
          true_and, and_true] at same
        rw [same.1, same.2]
    | _ => simp [source] at same
  | .pattern field text, other, same => by
    cases other with
    | pattern =>
        simp only [source, Json.obj.injEq, Json.str.injEq, List.cons.injEq, Prod.mk.injEq,
          true_and, and_true] at same
        rw [same.1, same.2]
    | _ => simp [source] at same
  | .presence field, other, same => by
    cases other with
    | presence =>
        simp only [source, Json.obj.injEq, Json.str.injEq, List.cons.injEq, Prod.mk.injEq,
          true_and, and_true] at same
        rw [same]
    | _ => simp [source] at same

theorem normals_eq_of_sources_eq :
    (a b : List Query) → sources a = sources b → normals a = normals b
  | [], [], _ => rfl
  | [], _ :: _, same => by cases same
  | _ :: _, [], same => by cases same
  | query :: rest, other :: others, same => by
    rw [sources, sources] at same
    rw [normals, normals, normal_eq_of_source_eq query other (List.cons.inj same).1,
      normals_eq_of_sources_eq rest others (List.cons.inj same).2]

end

/-- Queries are written alike exactly when their normal forms are the same. -/
theorem source_eq_source_iff (a b : Query) : a.source = b.source ↔ a.normal = b.normal := by
  constructor
  · exact normal_eq_of_source_eq a b
  · intro agree
    rw [← source_normal a, agree, source_normal b]

end Query

end CriteriaSearch
