import CriteriaSearch.Json.Number
import CriteriaSearch.Members

/-!
# JSON values

A value is a tree of the six kinds of JSON.  The members of an object are a list of named values;
`Json.object` builds objects from members in any order and keeps the names strictly increasing,
the last of several members of one name winning.  `Json.Canonical` says that this holds of every
object inside a value.
-/

namespace CriteriaSearch

/-- A JSON value. -/
inductive Json where
  | null
  | bool (b : Bool)
  | num (n : Number)
  | str (s : String)
  | arr (items : List Json)
  | obj (members : List (String × Json))
  deriving Inhabited

namespace Json

mutual

/-- Equality of values is decided kind by kind. -/
def decEq : (a b : Json) → Decidable (a = b)
  | .null, .null => isTrue rfl
  | .bool a, .bool b => decidable_of_iff (a = b) (by simp)
  | .num a, .num b => decidable_of_iff (a = b) (by simp)
  | .str a, .str b => decidable_of_iff (a = b) (by simp)
  | .arr a, .arr b =>
    match decEqItems a b with
    | isTrue same => isTrue (same ▸ rfl)
    | isFalse differ => isFalse fun equal => differ (Json.arr.inj equal)
  | .obj a, .obj b =>
    match decEqMembers a b with
    | isTrue same => isTrue (same ▸ rfl)
    | isFalse differ => isFalse fun equal => differ (Json.obj.inj equal)
  | .null, .bool _ | .null, .num _ | .null, .str _ | .null, .arr _ | .null, .obj _
  | .bool _, .null | .bool _, .num _ | .bool _, .str _ | .bool _, .arr _ | .bool _, .obj _
  | .num _, .null | .num _, .bool _ | .num _, .str _ | .num _, .arr _ | .num _, .obj _
  | .str _, .null | .str _, .bool _ | .str _, .num _ | .str _, .arr _ | .str _, .obj _
  | .arr _, .null | .arr _, .bool _ | .arr _, .num _ | .arr _, .str _ | .arr _, .obj _
  | .obj _, .null | .obj _, .bool _ | .obj _, .num _ | .obj _, .str _ | .obj _, .arr _ =>
    isFalse (by simp)

/-- Equality of item lists. -/
def decEqItems : (a b : List Json) → Decidable (a = b)
  | [], [] => isTrue rfl
  | [], _ :: _ | _ :: _, [] => isFalse (by simp)
  | x :: xs, y :: ys =>
    match decEq x y, decEqItems xs ys with
    | isTrue first, isTrue later => isTrue (first ▸ later ▸ rfl)
    | isFalse differ, _ => isFalse fun equal => differ (List.cons.inj equal).1
    | _, isFalse differ => isFalse fun equal => differ (List.cons.inj equal).2

/-- Equality of member lists. -/
def decEqMembers : (a b : List (String × Json)) → Decidable (a = b)
  | [], [] => isTrue rfl
  | [], _ :: _ | _ :: _, [] => isFalse (by simp)
  | (k, x) :: xs, (l, y) :: ys =>
    if named : k = l then
      match decEq x y, decEqMembers xs ys with
      | isTrue first, isTrue later => isTrue (by rw [named, first, later])
      | isFalse differ, _ => isFalse fun equal => differ (Prod.mk.inj (List.cons.inj equal).1).2
      | _, isFalse differ => isFalse fun equal => differ (List.cons.inj equal).2
    else isFalse fun equal => named (Prod.mk.inj (List.cons.inj equal).1).1

end

instance : DecidableEq Json := decEq

mutual

/-- Every object inside the value has strictly increasing names. -/
def Canonical : Json → Prop
  | .null | .bool _ | .num _ | .str _ => True
  | .arr items => CanonicalItems items
  | .obj members => Members.Sorted members ∧ CanonicalMembers members

/-- Every item is canonical. -/
def CanonicalItems : List Json → Prop
  | [] => True
  | item :: rest => item.Canonical ∧ CanonicalItems rest

/-- The value of every member is canonical. -/
def CanonicalMembers : List (String × Json) → Prop
  | [] => True
  | (_, value) :: rest => value.Canonical ∧ CanonicalMembers rest

end

/-- The object with the given members, the last one of each name. -/
def object (members : List (String × Json)) : Json :=
  .obj (Members.ofList members)

/-- An array of strings. -/
def strings (texts : List String) : Json :=
  .arr (texts.map .str)

/-- The integer as a number; it becomes a double when it fits no word. -/
def ofInt (n : Int) : Json :=
  match WordInt.ofInt? n with
  | some word => .num (.integer word)
  | none => .num (.real (Binary64.ofInt n))

/-- The natural number as a number. -/
def ofNat (n : Nat) : Json :=
  ofInt n

/-- A text, or null where there is none. -/
def ofText? : Option String → Json
  | none => .null
  | some s => .str s

/-- The member of an object. -/
def member? : Json → String → Option Json
  | .obj members, name => Members.find? name members
  | _, _ => none

end Json

end CriteriaSearch
