import CriteriaSearch.Paging.Decoding
import CriteriaSearch.Proofs.Condition.Decoding
import CriteriaSearch.Proofs.Condition.Members
import CriteriaSearch.Proofs.Json.Records
import CriteriaSearch.Proofs.Paging.Shapes

namespace CriteriaSearch

/-!
# The decoders of documents, shape by shape

For each shape there is a decoder.  A record and a condition look at a member
or an element only through the decoder of its shape, so what one change does
to a document is known from what it does at the place of the change.  These
laws are collected here for every shape; they are about the outermost object
or array alone and speak of its parts by their outcomes.
-/

open Decode (Portable Orderly toOption_eq_some toOption_map_congr)

/-- A list has one element exchanged. -/
theorem forall₂_middle {α : Type} {relation : α → α → Prop} (same : ∀ item, relation item item)
    {front back : List α} {first second : α} (exchanged : relation first second) :
    List.Forall₂ relation (front ++ first :: back) (front ++ second :: back) :=
  List.rel_append (List.forall₂_same.2 fun item _ => same item)
    (.cons exchanged (List.forall₂_same.2 fun item _ => same item))

namespace Shape

/-! ## The decoder of a shape -/

/-- What is decoded from a document of this shape. -/
@[reducible]
def Result : Shape → Type
  | .plain => Json
  | .list s => List s.Result
  | .condition => Condition
  | .sortKey => SortKey
  | .paging => Paging

/-- Decodes a document of this shape. -/
def decode : (s : Shape) → ConditionDecoder s.Result
  | .plain => Decode.json
  | .list s => Decode.list s.decode
  | .condition => Condition.decode
  | .sortKey => SortKey.decode
  | .paging => Paging.decode

/-- What is decoded from a document in its place, if it is accepted. -/
def outcome (s : Shape) (document : Json) : Option s.Result :=
  (s.decode .value (Reading.ofJson document)).toOption

/-- A decoder looks at a document only as the decoder of the shape does. -/
structure Reads {α : Type} (s : Shape) (decode : Json → Except ConditionError α) : Prop where
  congr : ∀ {first second : Json}, first.Distinct → second.Distinct →
    s.outcome first = s.outcome second → (decode first).toOption = (decode second).toOption
  accepts : ∀ {document : Json} {result : α}, decode document = .ok result →
    s.outcome document ≠ none

theorem outcome_plain (document : Json) : plain.outcome document = some document.sorted := by
  rw [outcome, decode, Decode.json_value_ofJson]
  rfl

theorem sorted_eq_of_outcome_plain_eq {first second : Json}
    (same : plain.outcome first = plain.outcome second) : first.sorted = second.sorted := by
  rw [outcome_plain, outcome_plain] at same
  exact Option.some.inj same

theorem outcome_ne_none_iff {s : Shape} {document : Json} :
    s.outcome document ≠ none ↔
      ∃ result, s.decode .value (Reading.ofJson document) = .ok result := by
  rw [outcome]
  cases s.decode .value (Reading.ofJson document) with
  | error problem => exact ⟨fun accepted => absurd rfl accepted, nofun⟩
  | ok result => exact ⟨fun _ => ⟨result, rfl⟩, fun _ => nofun⟩

theorem reads_self (s : Shape) :
    s.Reads fun document => s.decode .value (Reading.ofJson document) where
  congr _ _ same := same
  accepts decoded := outcome_ne_none_iff.2 ⟨_, decoded⟩

theorem reads_plain {α : Type} {decode : ConditionDecoder α} (orderly : Orderly decode) :
    plain.Reads fun document => decode .value (Reading.ofJson document) where
  congr distinct distinctAlso same :=
    (orderly distinct).trans
      (sorted_eq_of_outcome_plain_eq same ▸ (orderly distinctAlso).symm)
  accepts {document} _ := by
    rw [outcome_plain]
    exact nofun

/-! ## Laws of one object or array -/

/-- The decoder of a shape finds the parts of an object in any order and under
either of their names, looks at no part but through the decoder of its shape,
and does not accept a document with a part that it refuses. -/
structure Lawful (s : Shape) : Prop where
  portable : Portable s.decode
  permute : ∀ {members rearranged : List (String × Json)},
    (Members.names members).Nodup → members.Perm rearranged →
      s.outcome (.obj members) = s.outcome (.obj rearranged)
  rename : ∀ {front back : List (String × Json)} {name other : String} {value : Json},
    (name, other) ∈ s.aliases → s.outcome (.obj (front ++ (name, value) :: back)) =
      s.outcome (.obj (front ++ (other, value) :: back))
  member : ∀ {front back : List (String × Json)} {name : String} {value held : Json},
    value.Distinct → held.Distinct →
      (s.member name).outcome value = (s.member name).outcome held →
        s.outcome (.obj (front ++ (name, value) :: back)) =
          s.outcome (.obj (front ++ (name, held) :: back))
  item : ∀ {front back : List Json} {value held : Json},
    value.Distinct → held.Distinct →
      (s.item front.length).outcome value = (s.item front.length).outcome held →
        s.outcome (.arr (front ++ value :: back)) = s.outcome (.arr (front ++ held :: back))
  twice : ∀ {members : List (String × Json)} {name other : String},
    (name, other) ∈ s.aliases → name ∈ Members.names members →
      other ∈ Members.names members → s.outcome (.obj members) = none
  accepts_member : ∀ {members : List (String × Json)} {name : String} {value : Json},
    s.outcome (.obj members) ≠ none → (name, value) ∈ members →
      (s.member name).outcome value ≠ none
  accepts_item : ∀ {items : List Json} {position : Nat} {value : Json},
    s.outcome (.arr items) ≠ none → items[position]? = some value →
      (s.item position).outcome value ≠ none

/-! ### Plain values and lists -/

theorem lawful_plain : plain.Lawful where
  portable := Decode.portable_json
  permute {members rearranged} unique perm := by
    rw [outcome_plain, outcome_plain, Json.sorted, Json.sorted, Json.object, Json.object,
      Json.sortedMembers_eq_map, Json.sortedMembers_eq_map]
    refine congrArg (some ∘ Json.obj) (Members.ofList_eq_of_perm ?_ (perm.map _))
    rwa [Members.names, List.map_map]
  rename names := nomatch names
  member _ _ same := by
    have alike := sorted_eq_of_outcome_plain_eq same
    simp only [outcome_plain, Json.sorted, Json.sortedMembers_eq_map, List.map_append,
      List.map_cons, alike]
  item _ _ same := by
    have alike := sorted_eq_of_outcome_plain_eq same
    simp only [outcome_plain, Json.sorted, Json.sortedItems_eq_map, List.map_append,
      List.map_cons, alike]
  twice names := nomatch names
  accepts_member _ _ := by
    rw [member, outcome_plain]
    exact nofun
  accepts_item _ _ := by
    rw [item, outcome_plain]
    exact nofun

theorem lawful_list {s : Shape} (lawful : s.Lawful) : (list s).Lawful where
  portable := lawful.portable.list
  permute _ _ := rfl
  rename names := nomatch names
  member _ _ _ := rfl
  item _ _ same := by
    apply Decode.toOption_list_congr
    apply forall₂_middle
    · exact fun _ => rfl
    · exact same
  twice names := nomatch names
  accepts_member accepted := absurd rfl accepted
  accepts_item accepted placed := by
    rcases outcome_ne_none_iff.1 accepted with ⟨values, decoded⟩
    exact outcome_ne_none_iff.2
      (Decode.exists_of_list_eq_ok decoded (List.mem_of_getElem? placed))

/-! ### Conditions -/

section

open Condition.Draft (Part)

/-- What a part of a condition document stands for. -/
def ofPart : Part → Shape
  | .values | .logic | .kind => .plain
  | .children => .list .condition

theorem member_of_mem_names (part : Part) :
    ∀ name ∈ part.names, condition.member name = ofPart part := by
  cases part <;> decide

theorem member_of_unnamed {name : String} (unnamed : ∀ part : Part, name ∉ part.names) :
    condition.member name = .plain := by
  refine if_neg fun children => unnamed .children ?_
  rw [children]
  exact List.mem_singleton_self _

theorem item_position (part : Part) : condition.item part.position = ofPart part := by
  cases part <;> rfl

theorem reads_part (part : Part) : (ofPart part).Reads part.decode := by
  cases part with
  | values => exact reads_plain Decode.orderly_table_list_json
  | logic => exact reads_plain Logic.orderly_decode
  | kind => exact reads_plain LeafKind.orderly_decode.nullable
  | children =>
      have same : Part.children.decode = fun document =>
          (list condition).decode .value (Reading.ofJson document) :=
        funext fun document => Condition.decodeChildren_eq_list _
      rw [same]
      exact reads_self (list condition)

theorem exists_part_of_mem_aliases :
    ∀ pair ∈ condition.aliases, ∃ part : Part, pair.1 ∈ part.names ∧ pair.2 ∈ part.names := by
  intro pair listed
  simp only [aliases, List.mem_cons, List.not_mem_nil, or_false] at listed
  rcases listed with rfl | rfl | rfl
  · exact ⟨.values, by decide⟩
  · exact ⟨.logic, by decide⟩
  · exact ⟨.kind, by decide⟩

theorem lawful_condition : condition.Lawful where
  portable := Condition.portable_decode
  permute _ perm := Condition.toOption_decode_obj_perm perm
  rename {front back name other value} names := by
    rcases exists_part_of_mem_aliases _ names with ⟨part, own, also⟩
    refine Condition.toOption_decode_obj_of_sameMember
      (forall₂_middle (fun _ _ => ⟨Iff.rfl, fun _ => rfl⟩) fun part' => ⟨?_, fun _ => rfl⟩)
    exact ⟨fun named => Part.eq_of_mem_names own named ▸ also,
      fun named => Part.eq_of_mem_names also named ▸ own⟩
  member {front back name value held} distinct distinctAlso same := by
    refine Condition.toOption_decode_obj_of_sameMember
      (forall₂_middle (fun _ _ => ⟨Iff.rfl, fun _ => rfl⟩) fun part => ⟨Iff.rfl, fun named => ?_⟩)
    rw [member_of_mem_names part name named] at same
    exact (reads_part part).congr distinct distinctAlso same
  item distinct distinctAlso same := by
    refine Condition.toOption_decode_arr_congr fun part placed => ?_
    rw [← placed, item_position part] at same
    exact (reads_part part).congr distinct distinctAlso same
  twice names given also := by
    rcases exists_part_of_mem_aliases _ names with ⟨part, own, other⟩
    exact Condition.toOption_decode_eq_none_of_twice own other (aliases_ne condition _ names)
      given also
  accepts_member {members name value} accepted listed := by
    by_cases named : ∃ part : Part, name ∈ part.names
    · rcases named with ⟨part, named⟩
      rcases outcome_ne_none_iff.1 accepted with ⟨result, decoded⟩
      rcases Condition.exists_content_of_decode_obj_eq_ok decoded listed named with ⟨_, own⟩
      rw [member_of_mem_names part name named]
      exact (reads_part part).accepts own
    · rw [member_of_unnamed fun part listed => named ⟨part, listed⟩, outcome_plain]
      exact nofun
  accepts_item accepted placed := by
    rcases outcome_ne_none_iff.1 accepted with ⟨result, decoded⟩
    rcases Condition.exists_content_of_decode_arr_eq_ok decoded placed with ⟨part, rfl, _, own⟩
    rw [item_position part]
    exact (reads_part part).accepts own

end

/-! ### Records -/

/-- A field takes its value from what the shape has at its position and under
its names. -/
structure FieldFits {σ : Type} (s : Shape) (field : RecordField ConditionRefusal σ)
    (position : Nat) : Prop where
  portable : field.Portable
  reads : ∀ record, (s.item position).Reads fun document =>
    field.set .value (Reading.ofJson document) record
  named : ∀ name, field.isNamed name = true → s.member name = s.item position

theorem FieldFits.of {α σ : Type} {s : Shape} {decode : ConditionDecoder α} {position : Nat}
    {name : String} {put : α → σ → σ} {aliases : List String} (portable : Portable decode)
    (reads : (s.item position).Reads fun document => decode .value (Reading.ofJson document))
    (named : ∀ other ∈ name :: aliases, s.member other = s.item position) :
    s.FieldFits (RecordField.of name decode put aliases) position where
  portable := RecordField.portable_of portable put aliases
  reads record :=
    { congr := fun distinct distinctAlso same =>
        toOption_map_congr (put · record) (reads.congr distinct distinctAlso same)
      accepts := fun decoded => by
        rcases Decode.map_eq_ok.1 decoded with ⟨value, own, -⟩
        exact reads.accepts own }
  named other isNamed := by
    rw [RecordField.isNamed, Bool.or_eq_true, decide_eq_true_iff, List.contains_iff_mem] at isNamed
    exact named other (List.mem_cons.2 (isNamed.imp_left Eq.symm))

theorem FieldFits.ofPlain {α σ : Type} {s : Shape} {decode : ConditionDecoder α} {position : Nat}
    {name : String} {put : α → σ → σ} {aliases : List String} (portable : Portable decode)
    (orderly : Orderly decode) (placed : s.item position = .plain)
    (named : ∀ other ∈ name :: aliases, s.member other = .plain) :
    s.FieldFits (RecordField.of name decode put aliases) position := by
  refine .of portable ?_ ?_
  · rw [placed]
    exact reads_plain orderly
  · rw [placed]
    exact named

theorem FieldFits.needed {σ : Type} {s : Shape} {field : RecordField ConditionRefusal σ}
    {position : Nat} (fits : s.FieldFits field position) : s.FieldFits field.needed position :=
  { portable := fits.portable, reads := fits.reads, named := fits.named }

/-- The fields of a record are those of the shape, and two of them can be given
in either order. -/
structure Fits {σ : Type} (s : Shape) (fields : List (RecordField ConditionRefusal σ)) : Prop where
  commutes : fields.Pairwise RecordField.Commutes
  each : ∀ place ∈ fields.zipIdx, s.FieldFits place.1 place.2
  unnamed : ∀ name, fields.find? (·.isNamed name) = none → s.member name = .plain
  names : ∀ pair ∈ s.aliases, ∃ field, fields.find? (·.isNamed pair.1) = some field ∧
    fields.find? (·.isNamed pair.2) = some field

section

variable {s : Shape} {fields : List (RecordField ConditionRefusal s.Result)} {start : s.Result}
  {field : RecordField ConditionRefusal s.Result}

theorem Fits.at (fits : s.Fits fields) {position : Nat} (placed : fields[position]? = some field) :
    s.FieldFits field position :=
  fits.each (field, position) (List.mem_zipIdx_iff_getElem?.2 placed)

theorem Fits.exists_at (fits : s.Fits fields) (listed : field ∈ fields) :
    ∃ position, s.FieldFits field position := by
  rcases List.mem_iff_getElem?.1 listed with ⟨position, placed⟩
  exact ⟨position, fits.at placed⟩

theorem Fits.found (fits : s.Fits fields) {name : String}
    (named : fields.find? (·.isNamed name) = some field) (record : s.Result) :
    (s.member name).Reads fun document => field.set .value (Reading.ofJson document) record := by
  rcases fits.exists_at (List.mem_of_find?_eq_some named) with ⟨position, own⟩
  have isNamed := List.find?_some named
  rw [own.named name isNamed]
  exact own.reads record

theorem outcome_record_obj (decodes : s.decode = Decode.record fields start)
    (members : List (String × Json)) : s.outcome (.obj members) =
      (Decode.recordRest fields .value [] start members).toOption := by
  rw [outcome, decodes, Decode.record_obj]
  rfl

theorem outcome_record_arr (decodes : s.decode = Decode.record fields start)
    (items : List Json) : s.outcome (.arr items) =
      (Decode.recordItems .value true fields start (Reading.ofItems items)).toOption := by
  rw [outcome, decodes, Decode.record_arr]
  rfl

/-- A record with fields that fit is decoded by the laws of its shape. -/
theorem lawful_record (decodes : s.decode = Decode.record fields start) (fits : s.Fits fields) :
    s.Lawful where
  portable := by
    rw [decodes]
    refine Decode.portable_record (fun field listed => ?_) start
    rcases fits.exists_at listed with ⟨_, own⟩
    exact own.portable
  permute _ perm := by
    rw [outcome_record_obj decodes, outcome_record_obj decodes]
    exact Decode.recordRest_perm fits.commutes perm
  rename names := by
    rcases fits.names _ names with ⟨field, own, also⟩
    rw [outcome_record_obj decodes, outcome_record_obj decodes]
    apply Decode.recordRest_congr
    apply forall₂_middle
    · exact fun _ => ⟨rfl, fun _ _ _ => rfl⟩
    · exact ⟨own.trans also.symm, fun _ _ _ => rfl⟩
  member distinct distinctAlso same := by
    rw [outcome_record_obj decodes, outcome_record_obj decodes]
    apply Decode.recordRest_congr
    apply forall₂_middle
    · exact fun _ => ⟨rfl, fun _ _ _ => rfl⟩
    · refine ⟨rfl, fun field named record => ?_⟩
      exact (fits.found named record).congr distinct distinctAlso same
  item distinct distinctAlso same := by
    rw [outcome_record_arr decodes, outcome_record_arr decodes]
    exact Decode.recordItems_congr fun _ placed record =>
      ((fits.at placed).reads record).congr distinct distinctAlso same
  twice names given also := by
    rcases fits.names _ names with ⟨field, own, other⟩
    rw [outcome_record_obj decodes]
    exact Decode.recordRest_eq_none_of_twice own other (aliases_ne s _ names) given also
  accepts_member {members name value} accepted listed := by
    cases named : fields.find? (·.isNamed name) with
    | none =>
        rw [fits.unnamed name named, outcome_plain]
        exact nofun
    | some field =>
        rw [outcome_record_obj decodes, Option.ne_none_iff_exists'] at accepted
        rcases accepted with ⟨result, decoded⟩
        rcases Decode.exists_set_of_recordRest_eq_ok (toOption_eq_some.1 decoded) listed named with
          ⟨before, after, own⟩
        exact (fits.found named before).accepts own
  accepts_item accepted placed := by
    rw [outcome_record_arr decodes, Option.ne_none_iff_exists'] at accepted
    rcases accepted with ⟨result, decoded⟩
    rcases Decode.exists_set_of_recordItems_eq_ok (toOption_eq_some.1 decoded) placed with
      ⟨field, there, before, after, own⟩
    exact ((fits.at there).reads before).accepts own

end

theorem fits_sortKey : sortKey.Fits SortKey.recordFields where
  commutes := by
    refine List.pairwise_cons.2 ⟨?_, List.pairwise_singleton _ _⟩
    rw [List.forall_mem_singleton]
    apply RecordField.Commutes.needed
    apply RecordField.commutes_of
    exact fun _ _ _ => rfl
  each := by
    simp only [SortKey.recordFields, List.zipIdx_cons, List.zipIdx_nil, List.forall_mem_cons,
      List.not_mem_nil, false_imp_iff, implies_true, and_true]
    exact ⟨.needed (.ofPlain Decode.portable_string Decode.orderly_string rfl (by decide)),
      .ofPlain Decode.portable_bool Decode.orderly_bool rfl (by decide)⟩
  unnamed _ _ := rfl
  names := nofun

theorem lawful_sortKey : sortKey.Lawful :=
  lawful_record rfl fits_sortKey

theorem fits_paging : paging.Fits Paging.recordFields where
  commutes := by
    simp only [Paging.recordFields, List.pairwise_cons, List.forall_mem_cons, List.not_mem_nil,
      false_imp_iff, implies_true, List.Pairwise.nil, and_true]
    repeat' apply And.intro
    all_goals
      apply RecordField.commutes_of
      exact fun _ _ _ => rfl
  each := by
    simp only [Paging.recordFields, List.zipIdx_cons, List.zipIdx_nil, List.forall_mem_cons,
      List.not_mem_nil, false_imp_iff, implies_true, and_true]
    exact ⟨.ofPlain Decode.portable_string Decode.orderly_string rfl (by decide),
      .ofPlain Decode.portable_string Decode.orderly_string rfl (by decide),
      .ofPlain Decode.portable_string Decode.orderly_string rfl (by decide),
      .of Condition.portable_decode.list (reads_self (list condition)) (by decide),
      .ofPlain (Decode.portable_integer _ _) (Decode.orderly_integer _ _) rfl (by decide),
      .ofPlain (Decode.portable_integer _ _) (Decode.orderly_integer _ _) rfl (by decide),
      .of lawful_sortKey.portable.list (reads_self (list sortKey)) (by decide),
      .ofPlain Decode.portable_string.list Decode.orderly_string.list rfl (by decide),
      .ofPlain Decode.portable_string.list Decode.orderly_string.list rfl (by decide),
      .ofPlain (Decode.portable_integer _ _) (Decode.orderly_integer _ _) rfl (by decide),
      .ofPlain Decode.portable_string.nullable Decode.orderly_string.nullable rfl (by decide)⟩
  unnamed name absent := by
    rw [member]
    split
    · next given => rcases given with rfl | rfl <;> cases absent
    · split
      · next given => rcases given with rfl | rfl <;> cases absent
      · rfl
  names := by
    intro pair listed
    simp only [aliases, List.mem_cons, List.not_mem_nil, or_false] at listed
    rcases listed with rfl | rfl | rfl | rfl | rfl | rfl <;> exact ⟨_, rfl, rfl⟩

theorem lawful : ∀ s : Shape, s.Lawful
  | .plain => lawful_plain
  | .list s => lawful_list (lawful s)
  | .condition => lawful_condition
  | .sortKey => lawful_sortKey
  | .paging => lawful_record rfl fits_paging

end Shape

end CriteriaSearch
