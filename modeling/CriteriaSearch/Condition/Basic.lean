import CriteriaSearch.Condition.Code
import CriteriaSearch.Json.Printer

/-!
# Condition trees

A condition is a leaf, which tests fields, or a group of further conditions.  The values of a leaf
are given as JSON and checked when they are put in, so a leaf that exists never holds a value of
the wrong shape: exact values are scalars, a bound of a range is never null, and phrases, starts
and patterns are texts.

Putting values into a leaf either changes the entry of one field or fails and leaves nothing
behind.
-/

namespace CriteriaSearch

/-- Why a condition cannot be built. -/
inductive ConditionFault where
  /-- An exact value is not a scalar. -/
  | notScalar (field : String) (value : Json)
  /-- A phrase is not a string. -/
  | notPhrase (field : String) (value : Json)
  /-- A start or a pattern has no text. -/
  | notText (field : String) (value : Json)
  /-- The inclusion of a bound is not a truth value. -/
  | notFlag (key field : String) (value : Json)
  /-- Values are put into a group. -/
  | groupValues
  /-- A leaf does not say what it tests. -/
  | kindMissing
  deriving DecidableEq

/-- The wording of a fault. -/
def ConditionFault.message : ConditionFault → String
  | .notScalar field value =>
    s!"TERMS value for `{field}` must be a string, number or bool, got {value.compact}"
  | .notPhrase field value =>
    s!"MATCH_PHRASE value for `{field}` must be a string, got {value.compact}"
  | .notText field value => s!"value for `{field}` must be text, got {value.compact}"
  | .notFlag key field value =>
    s!"RANGE `{key}` for `{field}` must be a bool, got {value.compact}"
  | .groupValues => "group conditions carry no field values"
  | .kindMissing => "leaf condition is missing its node type"

/-- An exact value that a field can be compared with. -/
inductive Scalar where
  | text (s : String)
  | number (n : Number)
  | truth (b : Bool)
  deriving DecidableEq

namespace Scalar

/-- The scalar as a JSON value. -/
def toJson : Scalar → Json
  | .text s => .str s
  | .number n => .num n
  | .truth b => .bool b

/-- The JSON value as a scalar, if it is one. -/
def ofJson? : Json → Option Scalar
  | .str s => some (.text s)
  | .num n => some (.number n)
  | .bool b => some (.truth b)
  | .null | .arr _ | .obj _ => none

/-- The plain text of a scalar, without quotes. -/
def plain : Scalar → String
  | .text s => s
  | .number n => String.ofList n.text
  | .truth b => String.ofList (Json.boolText b)

end Scalar

/-- A bound of a range: any JSON value but null, which stands for no bound. -/
structure Bound where
  value : Json
  value_ne_null : value ≠ .null
  deriving DecidableEq

/-- The bound that a value stands for. -/
def Bound.ofJson? (value : Json) : Option Bound :=
  if null : value = .null then none else some ⟨value, null⟩

/-- The two ends of a range and whether they belong to it. -/
structure Bounds where
  lower : Option Bound
  upper : Option Bound
  includeLower : Bool
  includeUpper : Bool
  deriving DecidableEq

/-- Neither end is set. -/
def Bounds.isUnbounded (bounds : Bounds) : Bool :=
  bounds.lower.isNone && bounds.upper.isNone

/-- What a range leaf holds for a field. -/
inductive RangeEntry where
  /-- No value was given. -/
  | unset
  /-- The first value was no object; it tests nothing. -/
  | ignored
  | bounds (bounds : Bounds)
  deriving DecidableEq

/-- What a leaf tests, field by field. -/
inductive Leaf where
  | terms (fields : FieldMap (List Scalar))
  | phrase (fields : FieldMap (List String))
  | range (fields : FieldMap RangeEntry)
  | start (fields : FieldMap String)
  | pattern (fields : FieldMap String)
  /-- Fields that have to be there, in the order of their insertion and with repetitions. -/
  | presence (fields : List String)
  deriving DecidableEq

namespace Leaf

/-- The leaf of a kind that tests nothing yet. -/
def empty : LeafKind → Leaf
  | .terms => .terms .empty
  | .phrase => .phrase .empty
  | .range => .range .empty
  | .start => .start .empty
  | .pattern => .pattern .empty
  | .presence => .presence []

/-- The kind of a leaf. -/
def kind : Leaf → LeafKind
  | .terms _ => .terms
  | .phrase _ => .phrase
  | .range _ => .range
  | .start _ => .start
  | .pattern _ => .pattern
  | .presence _ => .presence

/-- All values as scalars, or the first that is none. -/
def scalars (field : String) : List Json → Except ConditionFault (List Scalar)
  | [] => .ok []
  | value :: rest =>
    match Scalar.ofJson? value with
    | none => .error (.notScalar field value)
    | some scalar => (scalars field rest).map (scalar :: ·)

/-- All values as phrases, or the first that is no string. -/
def phrases (field : String) : List Json → Except ConditionFault (List String)
  | [] => .ok []
  | .str s :: rest => (phrases field rest).map (s :: ·)
  | value :: _ => .error (.notPhrase field value)

/-- The plain text of the first value; without one, or with null, the empty text. -/
def firstText (field : String) : List Json → Except ConditionFault String
  | [] | .null :: _ => .ok ""
  | value :: _ =>
    match Scalar.ofJson? value with
    | some scalar => .ok scalar.plain
    | none => .error (.notText field value)

/-- A flag of a range, with a default for an absent or null one. -/
def flag (field : String) (members : List (String × Json)) (key : String) (default : Bool) :
    Except ConditionFault Bool :=
  match Members.find? key members with
  | none | some .null => .ok default
  | some (.bool b) => .ok b
  | some value => .error (.notFlag key field value)

/-- The bounds that an object describes.  Its other members mean nothing. -/
def boundsOf (field : String) (members : List (String × Json)) : Except ConditionFault Bounds := do
  let includeLower ← flag field members "include_lower" true
  let includeUpper ← flag field members "include_upper" false
  return {
    lower := (Members.find? "from" members).bind Bound.ofJson?
    upper := (Members.find? "to" members).bind Bound.ofJson?
    includeLower
    includeUpper }

/-- What a range leaf holds for a field, by the first value. -/
def rangeEntry (field : String) : List Json → Except ConditionFault RangeEntry
  | [] => .ok .unset
  | .obj members :: _ => (boundsOf field members).map .bounds
  | _ :: _ => .ok .ignored

/-- Puts values for a field into a leaf, checked against its kind. -/
def insert (field : String) (values : List Json) : Leaf → Except ConditionFault Leaf
  | .terms fields => (scalars field values).map fun entry => .terms (fields.insert field entry)
  | .phrase fields => (phrases field values).map fun entry => .phrase (fields.insert field entry)
  | .range fields => (rangeEntry field values).map fun entry => .range (fields.insert field entry)
  | .start fields => (firstText field values).map fun entry => .start (fields.insert field entry)
  | .pattern fields =>
    (firstText field values).map fun entry => .pattern (fields.insert field entry)
  | .presence fields => .ok (.presence (fields ++ [field]))

/-- Puts values for a field into a leaf in place.  A failure leaves the leaf as it is at that
moment, so the values are checked before anything is put in. -/
def put (field : String) (values : List Json) : EStateM ConditionFault Leaf Unit := do
  match ← get with
  | .terms fields =>
    let entry ← ofExcept (scalars field values)
    set (Leaf.terms (fields.insert field entry))
  | .phrase fields =>
    let entry ← ofExcept (phrases field values)
    set (Leaf.phrase (fields.insert field entry))
  | .range fields =>
    let entry ← ofExcept (rangeEntry field values)
    set (Leaf.range (fields.insert field entry))
  | .start fields =>
    let entry ← ofExcept (firstText field values)
    set (Leaf.start (fields.insert field entry))
  | .pattern fields =>
    let entry ← ofExcept (firstText field values)
    set (Leaf.pattern (fields.insert field entry))
  | .presence fields => set (Leaf.presence (fields ++ [field]))

/-- What a leaf is after values have been put in for several fields, one field after the other.
A step that fails does not keep the next ones from being taken. -/
def putEach : List (String × List Json) → Leaf → Leaf
  | [], leaf => leaf
  | (field, values) :: rest, leaf =>
    match put field values leaf with
    | .ok _ after | .error _ after => putEach rest after

/-- Puts in the values of several fields, one field after the other. -/
def insertAll : List (String × List Json) → Leaf → Except ConditionFault Leaf
  | [], leaf => .ok leaf
  | (field, values) :: rest, leaf => do
    let leaf ← leaf.insert field values
    insertAll rest leaf

end Leaf

/-- A condition: a test of fields, or a group of conditions. -/
inductive Condition where
  | leaf (logic : Logic) (test : Leaf)
  | group (logic : Logic) (children : List Condition)
  deriving Inhabited

namespace Condition

/-- How the condition takes part in its surroundings. -/
def logic : Condition → Logic
  | .leaf logic _ => logic
  | .group logic _ => logic

/-- The kind of a leaf; a group has none. -/
def kind? : Condition → Option LeafKind
  | .leaf _ test => some test.kind
  | .group _ _ => none

/-- Whether the condition is a group. -/
def isGroup : Condition → Bool
  | .leaf _ _ => false
  | .group _ _ => true

/-- The condition with values for one more field.  Groups take no values. -/
def field (name : String) (values : List Json) : Condition → Except ConditionFault Condition
  | .leaf logic test => (test.insert name values).map (.leaf logic)
  | .group _ _ => .error .groupValues

/-- The condition with values for several fields, put in one after the other. -/
def fields : List (String × List Json) → Condition → Except ConditionFault Condition
  | [], condition => .ok condition
  | (name, values) :: rest, condition => do
    let condition ← condition.field name values
    fields rest condition

/-- A leaf of the given kind that holds a whole table of values. -/
def ofValues (kind : LeafKind) (logic : Logic) (values : FieldMap (List Json)) :
    Except ConditionFault Condition :=
  (Leaf.insertAll values.entries (Leaf.empty kind)).map (.leaf logic)

end Condition

end CriteriaSearch
