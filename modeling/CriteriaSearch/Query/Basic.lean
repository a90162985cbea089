import CriteriaSearch.Condition.Code
import CriteriaSearch.Json.Basic

/-!
# Queries of the search engine

A query is a tree of clauses.  Its inner nodes are boolean combinations with three buckets of
clauses, and rescored queries; its leaves are the atomic clauses that test a field.  `Query.source`
writes a query in the engine's JSON language.  A bucket of several clauses is written as a list, a
bucket of one clause as that clause, and an empty bucket is left out.
-/

namespace CriteriaSearch

/-- Clauses in the three buckets of a boolean combination. -/
structure Buckets (α : Type) where
  must : List α := []
  should : List α := []
  mustNot : List α := []
  /-- How many clauses of `should` have to hold, as the engine reads it. -/
  minimumShouldMatch : Option String := none
  deriving DecidableEq, Inhabited

/-- An interval that a field has to lie in.  A bound that is absent and one that holds null are
written alike. -/
structure RangeClause where
  field : String
  lower : Option Json := none
  upper : Option Json := none
  includeLower : Bool := true
  includeUpper : Bool := false
  format : Option String := none
  timeZone : Option String := none
  deriving DecidableEq, Inhabited

/-- A query of the search engine. -/
inductive Query where
  | bool (clauses : Buckets Query)
  | terms (field : String) (values : List Json)
  | range (clause : RangeClause)
  | phrase (field text : String)
  | start (field text : String)
  | pattern (field text : String)
  | presence (field : String)
  /-- A query whose matches are scored by a script. -/
  | scored (query : Query) (script : String)
  deriving Inhabited

/-- A boolean combination of queries. -/
abbrev BoolQuery := Buckets Query

namespace Buckets

variable {α : Type}

/-- Appends a clause to the bucket of a logic. -/
def push (buckets : Buckets α) (logic : Logic) (clause : α) : Buckets α :=
  match logic with
  | .should => { buckets with should := buckets.should ++ [clause] }
  | .must => { buckets with must := buckets.must ++ [clause] }
  | .mustNot => { buckets with mustNot := buckets.mustNot ++ [clause] }

/-- Appends clauses one after the other, each to the bucket of its own logic. -/
def pushAll (buckets : Buckets α) (clauses : List (Logic × α)) : Buckets α :=
  clauses.foldl (fun buckets clause => buckets.push clause.1 clause.2) buckets

/-- The bucket of a logic. -/
def bucket (buckets : Buckets α) : Logic → List α
  | .should => buckets.should
  | .must => buckets.must
  | .mustNot => buckets.mustNot

/-- The same clauses with a required number of matches. -/
def requireMatches (buckets : Buckets α) (n : Nat) : Buckets α :=
  { buckets with minimumShouldMatch := some (String.ofList (Nat.toDigits 10 n)) }

/-- No bucket holds a clause. -/
def isEmpty (buckets : Buckets α) : Bool :=
  buckets.must.isEmpty && buckets.should.isEmpty && buckets.mustNot.isEmpty

end Buckets

namespace RangeClause

/-- The clause with an inclusive lower bound. -/
def atLeast (clause : RangeClause) (bound : Json) : RangeClause :=
  { clause with lower := some bound, includeLower := true }

/-- The clause with an exclusive upper bound. -/
def below (clause : RangeClause) (bound : Json) : RangeClause :=
  { clause with upper := some bound, includeUpper := false }

/-- The parameters of the clause, in the order of their names. -/
def parameters (clause : RangeClause) : Json :=
  .obj <|
    (clause.format.map fun s => ("format", Json.str s)).toList ++
    [("from", clause.lower.getD .null),
     ("include_lower", .bool clause.includeLower),
     ("include_upper", .bool clause.includeUpper)] ++
    (clause.timeZone.map fun s => ("time_zone", Json.str s)).toList ++
    [("to", clause.upper.getD .null)]

end RangeClause

namespace Query

/-- The query in random order: every match is scored by chance. -/
def random (query : Query) : Query :=
  .scored query "Math.random()"

/-- A bucket of written clauses under its name, unless it is empty. -/
def bucketMember (name : String) : List Json → List (String × Json)
  | [] => []
  | [single] => [(name, single)]
  | many => [(name, .arr many)]

mutual

/-- The query in the language of the search engine. -/
def source : Query → Json
  | .bool ⟨must, should, mustNot, minimum⟩ =>
    .obj [("bool", .obj <|
      (minimum.map fun s => ("minimum_should_match", Json.str s)).toList ++
      bucketMember "must" (sources must) ++
      bucketMember "must_not" (sources mustNot) ++
      bucketMember "should" (sources should))]
  | .terms field values => .obj [("terms", .obj [(field, .arr values)])]
  | .range clause => .obj [("range", .obj [(clause.field, clause.parameters)])]
  | .phrase field text =>
    .obj [("match_phrase", .obj [(field, .obj [("query", .str text)])])]
  | .start field text => .obj [("prefix", .obj [(field, .str text)])]
  | .pattern field text => .obj [("wildcard", .obj [(field, .obj [("wildcard", .str text)])])]
  | .presence field => .obj [("exists", .obj [("field", .str field)])]
  | .scored query script =>
    .obj [("function_score", .obj
      [("functions", .arr
        [.obj [("script_score", .obj [("script", .obj [("source", .str script)])])]]),
       ("query", query.source)])]

/-- The sources of several queries. -/
def sources : List Query → List Json
  | [] => []
  | query :: rest => query.source :: sources rest

end

end Query

/-- The boolean combination in the language of the search engine. -/
def Buckets.source (query : BoolQuery) : Json :=
  (Query.bool query).source

end CriteriaSearch
