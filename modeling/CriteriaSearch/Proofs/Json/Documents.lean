import CriteriaSearch.Proofs.Json.Text

namespace CriteriaSearch

/-!
# The document that a text writes

A text that is parsed writes a document, which has the members of every
object in the order of the text and with all their repetitions.  What the text
is parsed to is the document put in order, and decoders of other types read
the same document from it.
-/

namespace Origin

theorem admits_zero (o : Origin) : o.Admits 0 := by
  cases o with
  | text room => exact Nat.zero_le room
  | value => trivial

theorem Admits.leave {ε : Type} {o inner : Origin} {depth : Nat}
    (entered : o.enter = (.ok inner : Except (DecodeError ε) Origin))
    (admits : inner.Admits depth) : o.Admits (depth + 1) := by
  rcases o with (_ | room) | _
  · cases entered
  · cases entered
    exact Nat.succ_le_succ admits
  · trivial

end Origin

namespace Decode

variable {ε : Type}

theorem eq_true_of_needClosed {closed : Bool}
    (passed : Reading.needClosed closed = (.ok () : Except (DecodeError ε) Unit)) :
    closed = true := by
  cases closed with
  | false => cases passed
  | true => rfl

mutual

/-- What the decoder of plain JSON accepts is whole. -/
theorem exists_document_of_json_eq_ok {o : Origin} {reading : Reading} {value : Json}
    (decoded : json o reading = (.ok value : Except (DecodeError ε) Json)) :
    ∃ document, reading = Reading.ofJson document ∧ o.Admits document.depth := by
  cases reading with
  | broken => cases decoded
  | null => exact ⟨.null, rfl, o.admits_zero⟩
  | bool truth => exact ⟨.bool truth, rfl, o.admits_zero⟩
  | num number =>
      cases number with
      | none => cases decoded
      | some n => exact ⟨.num n, rfl, o.admits_zero⟩
  | str text =>
      cases text with
      | none => cases decoded
      | some s => exact ⟨.str s, rfl, o.admits_zero⟩
  | arr readings closed =>
      rw [json] at decoded
      rcases bind_eq_ok.1 decoded with ⟨inner, entered, decoded⟩
      rcases bind_eq_ok.1 decoded with ⟨values, inside, decoded⟩
      rcases bind_eq_ok.1 decoded with ⟨_, passed, -⟩
      rcases exists_items_of_jsonItems_eq_ok inside with ⟨items, rfl, admits⟩
      cases eq_true_of_needClosed passed
      exact ⟨.arr items, rfl, .leave entered admits⟩
  | obj readings closed =>
      rw [json] at decoded
      rcases bind_eq_ok.1 decoded with ⟨inner, entered, decoded⟩
      rcases bind_eq_ok.1 decoded with ⟨values, inside, decoded⟩
      rcases bind_eq_ok.1 decoded with ⟨_, passed, -⟩
      rcases exists_members_of_jsonMembers_eq_ok inside with ⟨members, rfl, admits⟩
      cases eq_true_of_needClosed passed
      exact ⟨.obj members, rfl, .leave entered admits⟩

theorem exists_items_of_jsonItems_eq_ok {o : Origin} {readings : List Reading}
    {values : List Json}
    (decoded : jsonItems o readings = (.ok values : Except (DecodeError ε) (List Json))) :
    ∃ items, readings = Reading.ofItems items ∧ o.Admits (Json.depthItems items) := by
  cases readings with
  | nil => exact ⟨[], rfl, o.admits_zero⟩
  | cons reading rest =>
      rw [jsonItems] at decoded
      rcases bind_eq_ok.1 decoded with ⟨_, first, decoded⟩
      rcases bind_eq_ok.1 decoded with ⟨_, later, -⟩
      rcases exists_document_of_json_eq_ok first with ⟨item, rfl, own⟩
      rcases exists_items_of_jsonItems_eq_ok later with ⟨items, rfl, others⟩
      exact ⟨item :: items, rfl, Origin.admits_max.2 ⟨own, others⟩⟩

theorem exists_members_of_jsonMembers_eq_ok {o : Origin}
    {readings : List (Option String × Reading)} {values : List (String × Json)}
    (decoded : jsonMembers o readings =
      (.ok values : Except (DecodeError ε) (List (String × Json)))) :
    ∃ members, readings = Reading.ofMembers members ∧ o.Admits (Json.depthMembers members) := by
  cases readings with
  | nil => exact ⟨[], rfl, o.admits_zero⟩
  | cons member rest =>
      obtain ⟨_ | name, reading⟩ := member
      · cases decoded
      · rw [jsonMembers] at decoded
        rcases bind_eq_ok.1 decoded with ⟨_, first, decoded⟩
        rcases bind_eq_ok.1 decoded with ⟨_, later, -⟩
        rcases exists_document_of_json_eq_ok first with ⟨value, rfl, own⟩
        rcases exists_members_of_jsonMembers_eq_ok later with ⟨members, rfl, others⟩
        exact ⟨(name, value) :: members, rfl, Origin.admits_max.2 ⟨own, others⟩⟩

end

end Decode

/-- The text writes the document, with the members of every object in the
order in which they stand in it. -/
structure Json.WrittenBy (document : Json) (text : String) : Prop where
  read : Reading.ofText text.toList = (Reading.ofJson document, true)
  depth : document.depth ≤ Origin.nestingLimit

/-- A text is parsed to the document that it writes, put in order. -/
theorem Json.parse?_eq_some {text : String} {value : Json} :
    Json.parse? text = some value ↔
      ∃ document : Json, document.WrittenBy text ∧ document.sorted = value := by
  rw [Json.parse?_eq_parseWithin?, Json.parseWithin?_eq_some]
  constructor
  · rintro ⟨decoded, ended⟩
    rcases Decode.exists_document_of_json_eq_ok decoded with ⟨document, whole, admits⟩
    rw [whole, Decode.json_ofJson_eq_sorted admits] at decoded
    exact ⟨document, ⟨Prod.ext whole ended, admits⟩, Except.ok.inj decoded⟩
  · rintro ⟨document, written, rfl⟩
    rw [written.read]
    exact ⟨Decode.json_ofJson_eq_sorted written.depth, rfl⟩

/-- Decoding a text is decoding the document that it writes. -/
theorem Decode.fromText_of_writtenBy {ε α : Type} {document : Json} {text : String}
    (written : document.WrittenBy text) (decode : Decoder ε α) :
    Decode.fromText decode text =
      decode (.text Origin.nestingLimit) (Reading.ofJson document) := by
  rw [Decode.fromText, written.read]
  exact bind_pure _

end CriteriaSearch
