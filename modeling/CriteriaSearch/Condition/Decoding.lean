import CriteriaSearch.Condition.Basic
import CriteriaSearch.Json.Decoding

/-!
# Decoding conditions

A condition document gives field values, a logic, a kind and children, each under one of two names
or by position.  A document with children is a group, whatever else it says; one without is a leaf
whose values are put in by the order of the field names.

Documents nest, so the decoder of a document calls itself on the elements of the list of children.
It is defined by recursion on the reading.
-/

namespace CriteriaSearch

/-- Why a document of the right shape is no condition. -/
inductive ConditionRefusal where
  /-- A logic or kind is neither an unsigned number nor a string. -/
  | notACode
  | unknownLogic (written : String)
  | unknownKind (written : String)
  | invalid (fault : ConditionFault)
  deriving DecidableEq

/-- The wording of a refusal. -/
def ConditionRefusal.message : ConditionRefusal → String
  | .notACode => "data did not match any variant of untagged enum Coded"
  | .unknownLogic written => s!"unknown query logic {written}"
  | .unknownKind written => s!"unknown query type {written}"
  | .invalid fault => s!"invalid condition: {fault.message}"

/-- A decoder whose documents can be refused as conditions. -/
abbrev ConditionDecoder (α : Type) := Decoder ConditionRefusal α

/-- What went wrong with a document that holds conditions. -/
abbrev ConditionError := DecodeError ConditionRefusal

namespace Code

/-- The code that a JSON value is. -/
def ofJson? : Json → Option Code
  | .num (.integer n) => if 0 ≤ n.val then some (.number n.val.toNat) else none
  | .str s => some (.name s)
  | _ => none

/-- A code.  The value is read whole before it is judged. -/
def decode : ConditionDecoder Code := fun o r => do
  let value ← Decode.json o r
  match ofJson? value with
  | some code => return code
  | none => .error (.rejected .notACode)

end Code

/-- A logic by any of its spellings. -/
def Logic.decode : ConditionDecoder Logic := fun o r => do
  let code ← Code.decode o r
  match Logic.ofCode? code with
  | some logic => return logic
  | none => .error (.rejected (.unknownLogic (String.ofList code.normal)))

/-- A leaf kind by any of its spellings. -/
def LeafKind.decode : ConditionDecoder LeafKind := fun o r => do
  let code ← Code.decode o r
  match LeafKind.ofCode? code with
  | some kind => return kind
  | none => .error (.rejected (.unknownKind (String.ofList code.normal)))

namespace Condition

/-- What has been read of a condition document. -/
structure Draft where
  values : Option (FieldMap (List Json)) := none
  logic : Option Logic := none
  kind : Option (Option LeafKind) := none
  children : Option (List Condition) := none
  deriving Inhabited

namespace Draft

/-- The parts of a condition document, in the order of their positions. -/
inductive Part where
  | values
  | logic
  | kind
  | children
  deriving DecidableEq

/-- All parts, in the order of their positions. -/
def Part.all : List Part := [.values, .logic, .kind, .children]

/-- The name under which a part is reported. -/
def Part.name : Part → String
  | .values => "fieldValues"
  | .logic => "logic"
  | .kind => "nodeType"
  | .children => "children"

/-- The part that a member gives. -/
def Part.ofName? : String → Option Part
  | "fieldValues" | "pair" => some .values
  | "logic" | "queryLogic" => some .logic
  | "nodeType" | "queryType" => some .kind
  | "children" => some .children
  | _ => none

/-- Whether a part has been read. -/
def has (draft : Draft) : Part → Bool
  | .values => draft.values.isSome
  | .logic => draft.logic.isSome
  | .kind => draft.kind.isSome
  | .children => draft.children.isSome

/-- Reads any part but the children. -/
def read (draft : Draft) (o : Origin) (r : Reading) :
    Part → Except ConditionError Draft
  | .values => do
    let values ← Decode.table (Decode.list Decode.json) o r
    return { draft with values := some values }
  | .logic => do
    let logic ← Logic.decode o r
    return { draft with logic := some logic }
  | .kind => do
    let kind ← Decode.nullable LeafKind.decode o r
    return { draft with kind := some kind }
  | .children => .ok draft

/-- The condition that the parts describe. -/
def condition (draft : Draft) (logic : Logic) : Except ConditionError Condition :=
  match draft.children.getD [] with
  | child :: rest => .ok (.group logic (child :: rest))
  | [] =>
    match draft.kind.getD none with
    | none => .error (.rejected (.invalid .kindMissing))
    | some kind =>
      match ofValues kind logic (draft.values.getD .empty) with
      | .ok condition => .ok condition
      | .error fault => .error (.rejected (.invalid fault))

end Draft

mutual

/-- A condition, given as an object or as the list of its parts. -/
def decode (o : Origin) : Reading → Except ConditionError Condition
  | .obj members closed => do
    let draft ← decodeMembers (← o.enter) {} members
    Reading.needClosed closed
    match draft.logic with
    | none => .error (.missing Draft.Part.logic.name)
    | some logic => draft.condition logic
  | .arr items closed => do
    let draft ← decodeItems (← o.enter) closed Draft.Part.all {} items
    match draft.logic with
    | none => .error .wrongLength
    | some logic => draft.condition logic
  | r => .error r.mismatch

/-- The members of a condition object, in their order. -/
def decodeMembers (o : Origin) (draft : Draft) :
    List (Option String × Reading) → Except ConditionError Draft
  | [] => .ok draft
  | (none, _) :: _ => .error .malformed
  | (some name, r) :: rest =>
    match Draft.Part.ofName? name with
    | none => do
      r.skip
      decodeMembers o draft rest
    | some part =>
      if draft.has part then .error (.duplicate part.name)
      else match part with
        | .children => do
          let children ← decodeChildren o r
          decodeMembers o { draft with children := some children } rest
        | part => do
          let draft ← draft.read o r part
          decodeMembers o draft rest

/-- The elements of a condition list, which give the parts by position.  Parts may be left out
from the end. -/
def decodeItems (o : Origin) (closed : Bool) :
    List Draft.Part → Draft → List Reading → Except ConditionError Draft
  | _, draft, [] => do
    Reading.needClosed closed
    return draft
  | [], _, _ :: _ => .error o.excess
  | part :: later, draft, r :: rest =>
    match part with
    | .children => do
      let children ← decodeChildren o r
      decodeItems o closed later { draft with children := some children } rest
    | part => do
      let draft ← draft.read o r part
      decodeItems o closed later draft rest

/-- The list of children. -/
def decodeChildren (o : Origin) : Reading → Except ConditionError (List Condition)
  | .arr items closed => do
    let children ← decodeAll (← o.enter) items
    Reading.needClosed closed
    return children
  | r => .error r.mismatch

/-- Conditions, one after the other. -/
def decodeAll (o : Origin) : List Reading → Except ConditionError (List Condition)
  | [] => .ok []
  | r :: rest => do
    let first ← decode o r
    let others ← decodeAll o rest
    return first :: others

end

end Condition

end CriteriaSearch
