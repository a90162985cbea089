import CriteriaSearch.Backend.Hit
import CriteriaSearch.Json.Printer
import CriteriaSearch.Search.Error

/-!
# Transforms

A transform turns a hit into a value of the caller's choice.  It can fail, and then the whole
search fails with it; it can also crash, which is told apart from a failure because it leaves no
cause.  The transform that searches use by themselves puts the identifier of a hit into its
source.
-/

namespace CriteriaSearch

/-- What a transform makes of a hit. -/
inductive Shaped (α : Type) where
  | doc (value : α)
  | failed (cause : Failure)
  | crashed
  deriving DecidableEq

/-- Turns hits into values. -/
abbrev Transform (α : Type) := Hit → Shaped α

namespace Transform

/-- The member under which a document holds its identifier. -/
def idKey : String := "_id"

/-- The source of a hit with the identifier put in, over any member of that name.  A hit without
a source counts as an empty object; any other source fails. -/
def sourceWithId : Transform Json := fun hit =>
  match hit.source with
  | .obj members => .doc (.obj (Members.insert idKey (.str hit.id) members))
  | .null => .doc (.obj [(idKey, .str hit.id)])
  | other => .failed ⟨s!"source of {hit.id} is not an object: {other.compact}"⟩

/-- The source of a hit as it is. -/
def raw : Transform Json := fun hit => .doc hit.source

/-- The source of a hit, decoded. -/
def decoded {α : Type} (decode : Decoder Empty α) : Transform α := fun hit =>
  match Decode.fromValue decode hit.source with
  | .ok value => .doc value
  | .error problem => .failed ⟨problem.message nofun⟩

/-- A member of the source that is an unsigned number. -/
def number (member : String) : Transform Nat := fun hit =>
  match hit.source.member? member with
  | some (.num (.integer n)) =>
    if 0 ≤ n.val then .doc n.val.toNat else .failed ⟨s!"missing {member}"⟩
  | _ => .failed ⟨s!"missing {member}"⟩

/-- The source of every hit but one, on which the transform fails. -/
def failingOn (id : String) : Transform Json := fun hit =>
  if hit.id = id then .failed ⟨s!"cannot map {hit.id}"⟩ else .doc hit.source

/-- The source of every hit but one, on which the transform crashes. -/
def crashingOn (id : String) : Transform Json := fun hit =>
  if hit.id = id then .crashed else .doc hit.source

/-- The value of a hit, or what happened instead. -/
def one {α : Type} (transform : Transform α) (hit : Hit) : Except SearchError α :=
  match transform hit with
  | .doc value => .ok value
  | .failed cause => .error (.transform cause)
  | .crashed => .error .crashed

/-- The values of hits in their order, or what happened at the first hit that has none. -/
def all {α : Type} (transform : Transform α) : List Hit → Except SearchError (List α)
  | [] => .ok []
  | hit :: rest => do
    let value ← transform.one hit
    let others ← transform.all rest
    return value :: others

/-- A transform followed by a function on its values. -/
def map {α β : Type} (f : α → β) (transform : Transform α) : Transform β := fun hit =>
  match transform hit with
  | .doc value => .doc (f value)
  | .failed cause => .failed cause
  | .crashed => .crashed

end Transform

end CriteriaSearch
