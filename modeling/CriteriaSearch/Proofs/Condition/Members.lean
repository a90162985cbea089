import CriteriaSearch.Proofs.Condition.Drafts
import CriteriaSearch.Proofs.Json.Outcomes

namespace CriteriaSearch

/-!
# Condition documents in any order

What is decoded from a condition document is known part by part from what is
given for each part.  Members in another order give the same parts, and so do
members under the other names, so neither changes the condition.  Where a
document comes from matters as little, since every part is read alike from a
text and from a value.
-/

open Decode (Portable Orderly toOption_eq_iff toOption_bind_congr toOption_enter_congr)

/-! ## Codes -/

theorem Code.portable_decode : Portable Code.decode :=
  Decode.portable_json.bind _

theorem Code.orderly_decode : Orderly Code.decode :=
  Decode.orderly_json.bind _

theorem Logic.portable_decode : Portable Logic.decode :=
  Code.portable_decode.bind _

theorem Logic.orderly_decode : Orderly Logic.decode :=
  Code.orderly_decode.bind _

theorem LeafKind.portable_decode : Portable LeafKind.decode :=
  Code.portable_decode.bind _

theorem LeafKind.orderly_decode : Orderly LeafKind.decode :=
  Code.orderly_decode.bind _

namespace Condition

open Draft (Part)

/-! ## Documents from texts and from values -/

theorem Draft.portable_read (draft : Draft) (part : Part) :
    Portable fun o r => draft.read o r part := by
  cases part with
  | values => exact Decode.portable_json.list.table.bind _
  | logic => exact Logic.portable_decode.bind _
  | kind => exact LeafKind.portable_decode.nullable.bind _
  | children => exact fun _ _ _ => rfl

mutual

theorem toOption_decode {o : Origin} {document : Json} (admits : o.Admits document.depth) :
    (Condition.decode o (Reading.ofJson document)).toOption =
      (Condition.decode .value (Reading.ofJson document)).toOption := by
  cases document with
  | null | bool truth | num number | str text => rfl
  | arr items =>
      rw [Reading.ofJson, Condition.decode, Condition.decode]
      exact toOption_enter_congr admits fun _ admits =>
        toOption_bind_congr (toOption_decodeItems admits Part.all {}) fun _ => rfl
  | obj members =>
      rw [Reading.ofJson, Condition.decode, Condition.decode]
      exact toOption_enter_congr admits fun _ admits =>
        toOption_bind_congr (toOption_decodeMembers admits {}) fun _ => rfl

theorem toOption_decodeMembers {o : Origin} {members : List (String × Json)}
    (admits : o.Admits (Json.depthMembers members)) (draft : Draft) :
    (decodeMembers o draft (Reading.ofMembers members)).toOption =
      (decodeMembers .value draft (Reading.ofMembers members)).toOption := by
  cases members with
  | nil => rfl
  | cons member rest =>
      obtain ⟨name, value⟩ := member
      rcases Origin.admits_max.1 admits with ⟨first, later⟩
      rw [Reading.ofMembers, decodeMembers, decodeMembers]
      cases Part.ofName? name with
      | none =>
          simp only [Reading.skip_ofJson]
          exact toOption_decodeMembers later draft
      | some part =>
          cases present : draft.has part with
          | true => simp only [present, if_true]
          | false =>
              simp only [present, Bool.false_eq_true, if_false]
              cases part with
              | children =>
                  exact toOption_bind_congr (toOption_decodeChildren first) fun _ =>
                    toOption_decodeMembers later _
              | _ =>
                  exact toOption_bind_congr (draft.portable_read _ first) fun _ =>
                    toOption_decodeMembers later _

theorem toOption_decodeItems {o : Origin} {items : List Json}
    (admits : o.Admits (Json.depthItems items)) (parts : List Part) (draft : Draft) :
    (decodeItems o true parts draft (Reading.ofItems items)).toOption =
      (decodeItems .value true parts draft (Reading.ofItems items)).toOption := by
  cases items with
  | nil => cases parts <;> rfl
  | cons item rest =>
      rcases Origin.admits_max.1 admits with ⟨first, later⟩
      cases parts with
      | nil => rfl
      | cons part parts =>
          rw [Reading.ofItems]
          cases part with
          | children =>
              rw [decodeItems, decodeItems]
              exact toOption_bind_congr (toOption_decodeChildren first) fun _ =>
                toOption_decodeItems later parts _
          | _ =>
              exact toOption_bind_congr (draft.portable_read _ first) fun _ =>
                toOption_decodeItems later parts _

theorem toOption_decodeChildren {o : Origin} {document : Json}
    (admits : o.Admits document.depth) :
    (decodeChildren o (Reading.ofJson document)).toOption =
      (decodeChildren .value (Reading.ofJson document)).toOption := by
  cases document with
  | null | bool truth | num number | str text | obj members => rfl
  | arr items =>
      rw [Reading.ofJson, decodeChildren, decodeChildren]
      exact toOption_enter_congr admits fun _ admits =>
        toOption_bind_congr (toOption_decodeAll admits) fun _ => rfl

theorem toOption_decodeAll {o : Origin} {items : List Json}
    (admits : o.Admits (Json.depthItems items)) :
    (decodeAll o (Reading.ofItems items)).toOption =
      (decodeAll .value (Reading.ofItems items)).toOption := by
  cases items with
  | nil => rfl
  | cons item rest =>
      rcases Origin.admits_max.1 admits with ⟨first, later⟩
      rw [Reading.ofItems, decodeAll, decodeAll]
      exact toOption_bind_congr (toOption_decode first) fun _ =>
        toOption_bind_congr (toOption_decodeAll later) fun _ => rfl

end

theorem portable_decode : Portable Condition.decode :=
  fun _ _ admits => toOption_decode admits

/-! ## Members in another order and under other names -/

variable {members others : List (String × Json)} {name other : String} {value : Json}
  {before after : Draft} {part : Part}

/-- Objects that give the same drafts are the same document. -/
theorem toOption_decode_obj_congr
    (same : ∀ draft part, ({} : Draft).Filled draft part (given members part) ↔
      ({} : Draft).Filled draft part (given others part)) :
    (Condition.decode .value (Reading.ofJson (.obj members))).toOption =
      (Condition.decode .value (Reading.ofJson (.obj others))).toOption := by
  refine toOption_eq_iff.2 fun condition => ?_
  rw [decode_obj_eq_ok, decode_obj_eq_ok]
  refine exists_congr fun draft => exists_congr fun logic => and_congr_left fun _ => ?_
  rw [decodeMembers_eq_ok, decodeMembers_eq_ok]
  exact forall_congr' fun part => same draft part

/-- A part is filled from one value at most, so their order does not matter. -/
theorem Draft.filled_perm {values rearranged : List Json} (perm : values.Perm rearranged) :
    before.Filled after part values ↔ before.Filled after part rearranged := by
  rcases values with _ | ⟨value, _ | ⟨second, rest⟩⟩
  · rw [List.nil_perm.1 perm]
  · rw [List.singleton_perm.1 perm]
  · rcases rearranged with _ | ⟨_, _ | _⟩
    · exact absurd perm.length_eq (Nat.succ_ne_zero _)
    · exact absurd (Nat.succ.inj perm.length_eq) (Nat.succ_ne_zero _)
    · exact Iff.rfl

/-- The order of the members of a condition document does not matter. -/
theorem toOption_decode_obj_perm (rearranged : members.Perm others) :
    (Condition.decode .value (Reading.ofJson (.obj members))).toOption =
      (Condition.decode .value (Reading.ofJson (.obj others))).toOption :=
  toOption_decode_obj_congr fun _ _ => Draft.filled_perm ((rearranged.filter _).map _)

/-- Two members give the same part, and the same content of it. -/
def SameMember (first second : String × Json) : Prop :=
  ∀ part : Part, (first.1 ∈ part.names ↔ second.1 ∈ part.names) ∧
    (first.1 ∈ part.names →
      (part.decode first.2).toOption = (part.decode second.2).toOption)

theorem Draft.Part.readFrom_congr {held : Json}
    (same : (part.decode value).toOption = (part.decode held).toOption)
    (read : Option part.Content) :
    part.ReadFrom (some value) read ↔ part.ReadFrom (some held) read :=
  exists_congr fun content => and_congr_left fun _ => toOption_eq_iff.1 same content

theorem forall₂_given (same : List.Forall₂ SameMember members others) (part : Part) :
    List.Forall₂ (fun value held => (part.decode value).toOption = (part.decode held).toOption)
      (given members part) (given others part) := by
  induction same with
  | nil => exact .nil
  | @cons first second rest later alike _ ih =>
      rw [given_cons, given_cons]
      have ⟨samePart, sameContent⟩ := alike part
      by_cases named : first.1 ∈ part.names
      · rw [if_pos named, if_pos (samePart.1 named)]
        exact .cons (sameContent named) ih
      · rw [if_neg named, if_neg fun also => named (samePart.2 also)]
        exact ih

theorem Draft.filled_congr_values {values held : List Json}
    (same : List.Forall₂ (fun value held =>
      (part.decode value).toOption = (part.decode held).toOption) values held) :
    before.Filled after part values ↔ before.Filled after part held := by
  cases same with
  | nil => exact Iff.rfl
  | cons first rest =>
      cases rest with
      | nil => exact and_congr_right fun _ => Part.readFrom_congr first _
      | cons _ _ => exact Iff.rfl

/-- Members that give the same can stand for each other. -/
theorem toOption_decode_obj_of_sameMember (same : List.Forall₂ SameMember members others) :
    (Condition.decode .value (Reading.ofJson (.obj members))).toOption =
      (Condition.decode .value (Reading.ofJson (.obj others))).toOption :=
  toOption_decode_obj_congr fun _ part => Draft.filled_congr_values (forall₂_given same part)

/-- An element that gives the same can stand at its position. -/
theorem toOption_decode_arr_congr {front back : List Json} {held : Json}
    (same : ∀ part : Part, part.position = front.length →
      (part.decode value).toOption = (part.decode held).toOption) :
    (Condition.decode .value (Reading.ofJson (.arr (front ++ value :: back)))).toOption =
      (Condition.decode .value (Reading.ofJson (.arr (front ++ held :: back)))).toOption := by
  refine toOption_eq_iff.2 fun condition => ?_
  rw [decode_arr_eq_ok, decode_arr_eq_ok]
  refine exists_congr fun draft => exists_congr fun logic => and_congr_left fun _ => ?_
  rw [decodeItems_eq_ok, decodeItems_eq_ok]
  refine and_congr (by rw [List.length_append, List.length_append]; rfl) ?_
  refine forall_congr' fun part => ?_
  rcases Nat.lt_or_ge part.position front.length with ahead | behind
  · rw [List.getElem?_append_left ahead, List.getElem?_append_left ahead]
  · rw [List.getElem?_append_right behind, List.getElem?_append_right behind]
    cases distance : part.position - front.length with
    | zero =>
        have here : part.position = front.length :=
          Nat.le_antisymm (Nat.sub_eq_zero_iff_le.1 distance) behind
        exact Part.readFrom_congr (same part here) _
    | succ _ => exact Iff.rfl

/-! ## Parts of a document that is accepted -/

theorem Draft.Filled.length_le_one {values : List Json}
    (filled : before.Filled after part values) : values.length ≤ 1 := by
  rcases values with _ | ⟨value, _ | ⟨second, rest⟩⟩
  · exact Nat.zero_le 1
  · exact Nat.le_refl 1
  · exact filled.elim

/-- A part is not given under two names. -/
theorem toOption_decode_eq_none_of_twice (named : name ∈ part.names) (also : other ∈ part.names)
    (different : name ≠ other) (listed : name ∈ Members.names members)
    (listedAlso : other ∈ Members.names members) :
    (Condition.decode .value (Reading.ofJson (.obj members))).toOption = none := by
  cases outcome : Condition.decode .value (Reading.ofJson (.obj members)) with
  | error problem => rfl
  | ok condition =>
      rcases decode_obj_eq_ok.1 outcome with ⟨draft, logic, read, -⟩
      have once := (decodeMembers_eq_ok.1 read part).length_le_one
      rw [given, List.length_map] at once
      rcases List.mem_map.1 listed with ⟨first, inside, rfl⟩
      rcases List.mem_map.1 listedAlso with ⟨second, insideAlso, rfl⟩
      have gives : first ∈ members.filter fun member => member.1 ∈ part.names :=
        List.mem_filter.2 ⟨inside, decide_eq_true named⟩
      have givesAlso : second ∈ members.filter fun member => member.1 ∈ part.names :=
        List.mem_filter.2 ⟨insideAlso, decide_eq_true also⟩
      generalize (members.filter fun member => member.1 ∈ part.names) = giving
        at once gives givesAlso
      rcases giving with _ | ⟨only, _ | ⟨_, _⟩⟩
      · cases gives
      · cases List.mem_singleton.1 gives
        cases List.mem_singleton.1 givesAlso
        exact absurd rfl different
      · exact absurd (Nat.le_of_succ_le_succ once) (Nat.not_succ_le_zero _)

/-- What is given for a part is accepted together with the document. -/
theorem exists_content_of_decode_obj_eq_ok {condition : Condition}
    (decoded : Condition.decode .value (Reading.ofJson (.obj members)) = .ok condition)
    (listed : (name, value) ∈ members) (named : name ∈ part.names) :
    ∃ content, part.decode value = .ok content := by
  rcases decode_obj_eq_ok.1 decoded with ⟨draft, logic, read, -⟩
  have filled := decodeMembers_eq_ok.1 read part
  have among : value ∈ given members part :=
    List.mem_map.2 ⟨(name, value), List.mem_filter.2 ⟨listed, decide_eq_true named⟩, rfl⟩
  rw [filled.eq_toList_head?, Option.mem_toList] at among
  rw [filled.eq_toList_head?, among, Option.toList_some, Draft.filled_cons] at filled
  rcases filled.2.2 with ⟨content, own, -⟩
  exact ⟨content, own⟩

/-- The elements of a list are accepted together with the document. -/
theorem exists_content_of_decode_arr_eq_ok {items : List Json} {condition : Condition}
    (decoded : Condition.decode .value (Reading.ofJson (.arr items)) = .ok condition)
    {position : Nat} (placed : items[position]? = some value) :
    ∃ part : Part, part.position = position ∧ ∃ content, part.decode value = .ok content := by
  rcases decode_arr_eq_ok.1 decoded with ⟨draft, logic, read, -⟩
  have ⟨most, filled⟩ := decodeItems_eq_ok.1 read
  have inside : position < 4 := Nat.lt_of_lt_of_le (List.getElem?_eq_some_iff.1 placed).1 most
  have positioned : ∃ part : Part, part.position = position := by
    match position, inside with
    | 0, _ => exact ⟨.values, rfl⟩
    | 1, _ => exact ⟨.logic, rfl⟩
    | 2, _ => exact ⟨.kind, rfl⟩
    | 3, _ => exact ⟨.children, rfl⟩
  rcases positioned with ⟨part, rfl⟩
  have own := filled part
  rw [placed] at own
  rcases own with ⟨content, own, -⟩
  exact ⟨part, rfl, content, own⟩

end Condition

end CriteriaSearch
