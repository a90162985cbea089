import CriteriaSearch.Backend.Hit
import CriteriaSearch.Backend.Request
import CriteriaSearch.Search.Error

/-!
# Backends

A backend answers requests and changes its state by answering.  The state is a value, so a search
against a backend is a function, and what a backend was asked can be read off its state.
-/

namespace CriteriaSearch

/-- What a backend answers. -/
abbrev Answer (α : Type) := Except Failure α

/-- A backend with states of type `σ`. -/
structure Backend (σ : Type) where
  name : String := "elasticsearch"
  /-- A bounded search. -/
  search : SearchRequest → σ → Answer SearchHits × σ
  /-- Opens a cursor and gives its first batch. -/
  scrollStart : ScrollRequest → σ → Answer ScrollPage × σ
  /-- The next batch of a cursor, by its handle and the time to keep it. -/
  scrollNext : (scrollId keepAlive : String) → σ → Answer ScrollPage × σ
  /-- How many documents match a query. -/
  count : Query → σ → Answer UInt64 × σ
  /-- A document by its identifier. -/
  get : (id : String) → σ → Answer (Option Hit) × σ

end CriteriaSearch
