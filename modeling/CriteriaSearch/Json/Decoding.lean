import CriteriaSearch.Json.Reading

/-!
# Typed decoding

A decoder turns a reading into a value of a type or reports the first problem that it meets.  It
works alike on a text and on a value that has been read before: a value is read as a text that
lists the members of every object in the order of their names.  Two things depend on where a
document comes from, and `Origin` records them.  Only text has a limit on nesting, and a list
with too many elements is a malformed text but a value of the wrong length.

The type `ε` stands for the reasons for which a decoded value can be rejected beyond its shape.
-/

namespace CriteriaSearch

/-- Why a document was not decoded. -/
inductive DecodeError (ε : Type) where
  /-- The text is no JSON document, or not one that can be used. -/
  | malformed
  /-- A value of another kind is asked for. -/
  | wrongType
  /-- An integer lies outside the range that is asked for. -/
  | outOfRange
  /-- A list stands for a record and has too few or too many elements. -/
  | wrongLength
  | missing (field : String)
  | duplicate (field : String)
  /-- The shape is right and the value is refused. -/
  | rejected (reason : ε)
  deriving DecidableEq, Inhabited

/-- The wording of a decoding problem. -/
def DecodeError.message {ε : Type} (wording : ε → String) : DecodeError ε → String
  | .malformed => "syntax"
  | .wrongType => "invalid type"
  | .outOfRange => "invalid value"
  | .wrongLength => "invalid length"
  | .missing field => s!"missing field `{field}`"
  | .duplicate field => s!"duplicate field `{field}`"
  | .rejected reason => wording reason

/-- Where a document comes from.  Of a text it is also known how many more containers may be
opened inside one another. -/
inductive Origin where
  | text (room : Nat)
  | value
  deriving DecidableEq

/-- How many containers a text may open inside one another. -/
def Origin.nestingLimit : Nat := 127

/-- A decoder for values of type `α`. -/
abbrev Decoder (ε α : Type) :=
  Origin → Reading → Except (DecodeError ε) α

namespace Origin

variable {ε : Type}

/-- The origin of the contents of a container, if it may be opened. -/
def enter : Origin → Except (DecodeError ε) Origin
  | .text 0 => .error .malformed
  | .text (room + 1) => .ok (.text room)
  | .value => .ok .value

/-- What a list with too many elements is. -/
def excess : Origin → DecodeError ε
  | .text _ => .malformed
  | .value => .wrongLength

end Origin

namespace Reading

variable {ε : Type}

/-- The problem with a reading of another kind than the one asked for.  A container is refused
before it is looked into; a scalar has to make sense first. -/
def mismatch : Reading → DecodeError ε
  | .broken | .num none | .str none => .malformed
  | .null | .bool _ | .num (some _) | .str (some _) | .arr _ _ | .obj _ _ => .wrongType

/-- Passes over a part that is not used. -/
def skip (r : Reading) : Except (DecodeError ε) Unit :=
  if r.skippable then .ok () else .error .malformed

/-- A container has to be closed where its contents end. -/
def needClosed (closed : Bool) : Except (DecodeError ε) Unit :=
  if closed then .ok () else .error .malformed

end Reading

namespace Decode

variable {ε α : Type}

/-- A string. -/
def string : Decoder ε String
  | _, .str (some s) => .ok s
  | _, r => .error r.mismatch

/-- A truth value. -/
def bool : Decoder ε Bool
  | _, .bool b => .ok b
  | _, r => .error r.mismatch

/-- An integer from `low` up to but excluding `high`; a double is never taken for one. -/
def integer (low high : Int) : Decoder ε Int
  | _, .num (some (.integer n)) =>
    if low ≤ n.val && n.val < high then .ok n.val else .error .outOfRange
  | _, r => .error r.mismatch

/-- A signed 64-bit integer. -/
def signed : Decoder ε Int :=
  integer (-9223372036854775808) 9223372036854775808

/-- An unsigned 64-bit integer. -/
def unsigned : Decoder ε Nat := fun o r =>
  (integer 0 18446744073709551616 o r).map Int.toNat

/-- An unsigned 64-bit integer as a word. -/
def word : Decoder ε UInt64 := fun o r =>
  (unsigned o r).map UInt64.ofNat

/-- A double; integers are taken for the nearest one. -/
def real : Decoder ε Binary64
  | _, .num (some n) => .ok n.toBinary64
  | _, r => .error r.mismatch

/-- A value that may be null. -/
def nullable (decode : Decoder ε α) : Decoder ε (Option α)
  | _, .null => .ok none
  | o, r => (decode o r).map some

/-- The elements of a list, one after the other. -/
def elements (decode : Decoder ε α) (o : Origin) : List Reading → Except (DecodeError ε) (List α)
  | [] => .ok []
  | r :: rest => do
    let first ← decode o r
    let others ← elements decode o rest
    return first :: others

/-- A list. -/
def list (decode : Decoder ε α) : Decoder ε (List α)
  | o, .arr items closed => do
    let values ← elements decode (← o.enter) items
    Reading.needClosed closed
    return values
  | _, r => .error r.mismatch

/-- Named entries, in the order in which they stand. -/
def entries (decode : Decoder ε α) (o : Origin) :
    List (Option String × Reading) → Except (DecodeError ε) (List (String × α))
  | [] => .ok []
  | (none, _) :: _ => .error .malformed
  | (some name, r) :: rest => do
    let first ← decode o r
    let others ← entries decode o rest
    return (name, first) :: others

/-- A table from names to values; of several entries of one name the last one stays. -/
def table (decode : Decoder ε α) : Decoder ε (FieldMap α)
  | o, .obj members closed => do
    let values ← entries decode (← o.enter) members
    Reading.needClosed closed
    return FieldMap.ofList values
  | _, r => .error r.mismatch

mutual

/-- Any JSON value. -/
def json : Origin → Reading → Except (DecodeError ε) Json
  | _, .null => .ok .null
  | _, .bool b => .ok (.bool b)
  | _, .num (some n) => .ok (.num n)
  | _, .str (some s) => .ok (.str s)
  | _, .broken | _, .num none | _, .str none => .error .malformed
  | o, .arr items closed => do
    let values ← jsonItems (← o.enter) items
    Reading.needClosed closed
    return .arr values
  | o, .obj members closed => do
    let values ← jsonMembers (← o.enter) members
    Reading.needClosed closed
    return Json.object values

/-- The items of an array. -/
def jsonItems (o : Origin) : List Reading → Except (DecodeError ε) (List Json)
  | [] => .ok []
  | r :: rest => do
    let first ← json o r
    let others ← jsonItems o rest
    return first :: others

/-- The members of an object. -/
def jsonMembers (o : Origin) :
    List (Option String × Reading) → Except (DecodeError ε) (List (String × Json))
  | [] => .ok []
  | (none, _) :: _ => .error .malformed
  | (some name, r) :: rest => do
    let first ← json o r
    let others ← jsonMembers o rest
    return (name, first) :: others

end

end Decode

/-- One field of a record of type `σ`. -/
structure RecordField (ε σ : Type) where
  /-- The name under which the field is reported. -/
  name : String
  /-- Other names under which the field may be given. -/
  aliases : List String := []
  required : Bool := false
  /-- Decodes the field into the record. -/
  set : Origin → Reading → σ → Except (DecodeError ε) σ

namespace RecordField

variable {ε σ α : Type}

/-- A field with a decoder for its value and a way to put the value into the record. -/
def of (name : String) (decode : Decoder ε α) (put : α → σ → σ) (aliases : List String) :
    RecordField ε σ where
  name := name
  aliases := aliases
  set o r record := (decode o r).map (put · record)

/-- The same field, without which a record is incomplete. -/
def needed (field : RecordField ε σ) : RecordField ε σ :=
  { field with required := true }

/-- Whether a member of this name gives the field. -/
def isNamed (field : RecordField ε σ) (name : String) : Bool :=
  field.name = name || field.aliases.contains name

end RecordField

namespace Decode

variable {ε σ : Type}

/-- The members of an object, put into the record in their order.  `seen` lists the fields that
have been given already. -/
def recordMembers (fields : List (RecordField ε σ)) (o : Origin) :
    List String → σ → List (Option String × Reading) →
      Except (DecodeError ε) (List String × σ)
  | seen, record, [] => .ok (seen, record)
  | _, _, (none, _) :: _ => .error .malformed
  | seen, record, (some name, r) :: rest =>
    match fields.find? (·.isNamed name) with
    | none => do
      r.skip
      recordMembers fields o seen record rest
    | some field =>
      if seen.contains field.name then .error (.duplicate field.name)
      else do
        let record ← field.set o r record
        recordMembers fields o (field.name :: seen) record rest

/-- The elements of a list, put into the fields in the order of their declaration. -/
def recordItems (o : Origin) (closed : Bool) :
    List (RecordField ε σ) → σ → List Reading → Except (DecodeError ε) σ
  | [], record, [] => do
    Reading.needClosed closed
    return record
  | [], _, _ :: _ => .error o.excess
  | field :: later, record, [] => do
    Reading.needClosed closed
    if (field :: later).any (·.required) then .error .wrongLength else return record
  | field :: later, record, r :: rest => do
    let record ← field.set o r record
    recordItems o closed later record rest

/-- A record, given as an object or as the list of its fields.  Fields that are not given keep
their value in `start`; the first field that is missing and required is reported. -/
def record (fields : List (RecordField ε σ)) (start : σ) : Decoder ε σ
  | o, .obj members closed => do
    let (seen, record) ← recordMembers fields (← o.enter) [] start members
    Reading.needClosed closed
    match fields.find? (fun field => field.required && !seen.contains field.name) with
    | some field => .error (.missing field.name)
    | none => return record
  | o, .arr items closed => do
    recordItems (← o.enter) closed fields start items
  | _, r => .error r.mismatch

/-- Decodes a value that has been read before. -/
def fromValue {α : Type} (decode : Decoder ε α) (value : Json) : Except (DecodeError ε) α :=
  decode .value (Reading.ofJson value)

/-- Decodes a text.  Whatever follows the value makes the text malformed. -/
def fromText {α : Type} (decode : Decoder ε α) (text : String) : Except (DecodeError ε) α := do
  let (reading, ended) := Reading.ofText text.toList
  let value ← decode (.text Origin.nestingLimit) reading
  if ended then return value else .error .malformed

end Decode

/-- The JSON value that a text writes. -/
def Json.parse? (text : String) : Option Json :=
  match (Decode.fromText Decode.json text : Except (DecodeError Empty) Json) with
  | .ok value => some value
  | .error _ => none

end CriteriaSearch
