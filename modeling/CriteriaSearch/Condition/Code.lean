import CriteriaSearch.Number.Shortest

/-!
# Logics and leaf kinds

A condition says how it takes part in its surroundings, its `Logic`, and a leaf says what it
tests, its `LeafKind`.  Documents write both by name or by number.  Names are read without regard
to the case of ASCII letters and to underscores, and a number may also be given as a string, so
that all spellings of one choice have the same normal form.
-/

namespace CriteriaSearch

/-- How a condition takes part in its surroundings. -/
inductive Logic where
  | should
  | must
  | mustNot
  deriving DecidableEq, Inhabited

/-- What a leaf tests. -/
inductive LeafKind where
  /-- The field holds one of some exact values. -/
  | terms
  /-- The field holds a phrase. -/
  | phrase
  /-- The field lies between two bounds. -/
  | range
  /-- The field starts with a text. -/
  | start
  /-- The field fits a pattern. -/
  | pattern
  /-- The field is there. -/
  | presence
  deriving DecidableEq

/-- A choice as it is written in a document. -/
inductive Code where
  | number (n : Nat)
  | name (s : String)
  deriving DecidableEq

/-- The form that all spellings of one choice share. -/
def Code.normal : Code → List Char
  | .number n => Nat.toDigits 10 n
  | .name s => (s.toList.filter (· ≠ '_')).map Char.toUpper

namespace Logic

/-- The name of a logic. -/
def name : Logic → String
  | .should => "SHOULD"
  | .must => "MUST"
  | .mustNot => "MUST_NOT"

/-- The number of a logic. -/
def number : Logic → Nat
  | .should => 1
  | .must => 2
  | .mustNot => 3

/-- The logic that a code stands for. -/
def ofCode? (code : Code) : Option Logic :=
  [should, must, mustNot].find? fun logic =>
    code.normal = (Code.number logic.number).normal || code.normal = (Code.name logic.name).normal

end Logic

namespace LeafKind

/-- The name of a kind. -/
def name : LeafKind → String
  | .terms => "TERMS"
  | .phrase => "MATCH_PHRASE"
  | .range => "RANGE"
  | .start => "PREFIX"
  | .pattern => "WILDCARD"
  | .presence => "EXISTS"

/-- The number of a kind. -/
def number : LeafKind → Nat
  | .terms => 1
  | .phrase => 2
  | .range => 3
  | .start => 4
  | .pattern => 5
  | .presence => 6

/-- The kind that a code stands for. -/
def ofCode? (code : Code) : Option LeafKind :=
  [terms, phrase, range, start, pattern, presence].find? fun kind =>
    code.normal = (Code.number kind.number).normal || code.normal = (Code.name kind.name).normal

end LeafKind

end CriteriaSearch
