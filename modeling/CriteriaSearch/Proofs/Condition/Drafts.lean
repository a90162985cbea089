import CriteriaSearch.Proofs.Condition.Grammar

namespace CriteriaSearch

/-!
# What is read of a condition document

The decoder reads a document from left to right into a draft, one member or
one element at a time.  What has been read in the end does not depend on the
order: every part is filled by the only value that is given for it, and a list
fills the parts as the object that names them in the order of their positions
would.  So a draft is known part by part from what the document gives.
-/

namespace Condition

open Draft (Part)

namespace Draft

/-! ## A draft, part by part -/

/-- What a part is once it has been read. -/
def Part.Content : Part → Type
  | .values => FieldMap (List Json)
  | .logic => Logic
  | .kind => Option LeafKind
  | .children => List Condition

/-- What has been read of a part. -/
def content (draft : Draft) : (part : Part) → Option part.Content
  | .values => draft.values
  | .logic => draft.logic
  | .kind => draft.kind
  | .children => draft.children

/-- The draft after a part has been read. -/
def put (draft : Draft) : (part : Part) → part.Content → Draft
  | .values, values => { draft with values := some values }
  | .logic, logic => { draft with logic := some logic }
  | .kind, kind => { draft with kind := some kind }
  | .children, children => { draft with children := some children }

/-- Reads a part by itself. -/
def Part.decode : (part : Part) → Json → Except ConditionError part.Content
  | .values, value => Decode.table (Decode.list Decode.json) .value (.ofJson value)
  | .logic, value => Logic.decode .value (.ofJson value)
  | .kind, value => Decode.nullable LeafKind.decode .value (.ofJson value)
  | .children, value => decodeChildren .value (.ofJson value)

theorem ext_content {first second : Draft}
    (same : ∀ part, first.content part = second.content part) : first = second := by
  obtain ⟨values, logic, kind, children⟩ := first
  have sameValues := same .values
  have sameLogic := same .logic
  have sameKind := same .kind
  have sameChildren := same .children
  simp only [content] at sameValues sameLogic sameKind sameChildren
  rw [sameValues, sameLogic, sameKind, sameChildren]

theorem content_put_self (draft : Draft) (part : Part) (read : part.Content) :
    (draft.put part read).content part = some read := by
  cases part <;> rfl

theorem content_put_of_ne (draft : Draft) {part other : Part} (different : other ≠ part)
    (read : part.Content) : (draft.put part read).content other = draft.content other := by
  cases part <;> cases other <;> first | rfl | exact absurd rfl different

theorem has_eq_isSome (draft : Draft) (part : Part) :
    draft.has part = (draft.content part).isSome := by
  cases part <;> rfl

theorem Part.ofName?_eq_some_iff {name : String} {part : Part} :
    Part.ofName? name = some part ↔ name ∈ part.names := by
  unfold Part.ofName?
  split <;> cases part <;> simp_all [Part.names]

/-- One member gives one part. -/
theorem Part.eq_of_mem_names {name : String} {first second : Part}
    (named : name ∈ first.names) (also : name ∈ second.names) : first = second := by
  rw [← ofName?_eq_some_iff] at named also
  exact Option.some.inj (named.symm.trans also)

/-- What is read of a part from the value found for it, if there is one. -/
def Part.ReadFrom (part : Part) : Option Json → Option part.Content → Prop
  | none, read => read = none
  | some value, read => ∃ content, part.decode value = .ok content ∧ read = some content

/-- The part has been read between two drafts from the values given for it. -/
def Filled (before after : Draft) (part : Part) : List Json → Prop
  | [] => after.content part = before.content part
  | [value] => before.content part = none ∧ part.ReadFrom (some value) (after.content part)
  | _ :: _ :: _ => False

theorem filled_congr {before other after : Draft} {part : Part}
    (same : before.content part = other.content part) (values : List Json) :
    before.Filled after part values ↔ other.Filled after part values := by
  rcases values with _ | ⟨value, _ | ⟨second, rest⟩⟩
  · rw [Filled, Filled, same]
  · rw [Filled, Filled, same]
  · exact Iff.rfl

theorem filled_cons {before after : Draft} {part : Part} {value : Json} {rest : List Json} :
    before.Filled after part (value :: rest) ↔
      before.content part = none ∧ rest = [] ∧
        part.ReadFrom (some value) (after.content part) := by
  cases rest with
  | nil => exact ⟨fun ⟨unread, filled⟩ => ⟨unread, rfl, filled⟩,
      fun ⟨unread, _, filled⟩ => ⟨unread, filled⟩⟩
  | cons second rest => exact ⟨False.elim, fun ⟨_, impossible, _⟩ => nomatch impossible⟩

/-- Nothing is read from more than one value. -/
theorem Filled.eq_toList_head? {before after : Draft} {part : Part} {values : List Json}
    (filled : before.Filled after part values) : values = values.head?.toList := by
  rcases values with _ | ⟨value, _ | ⟨second, rest⟩⟩
  · rfl
  · rfl
  · exact filled.elim

theorem forall_iff_and_forall_ne {holds : Part → Prop} (part : Part) :
    (∀ other, holds other) ↔ holds part ∧ ∀ other, other ≠ part → holds other := by
  constructor
  · intro all
    exact ⟨all part, fun other _ => all other⟩
  · rintro ⟨own, others⟩ other
    by_cases same : other = part
    · exact same ▸ own
    · exact others other same

/-- A part that has been read is read no more, and all others are still open. -/
theorem filled_put_iff {before after : Draft} {part : Part} {read : part.Content}
    {values : Part → List Json} :
    (∀ other, (before.put part read).Filled after other (values other)) ↔
      (values part = [] ∧ after.content part = some read) ∧
        ∀ other, other ≠ part → before.Filled after other (values other) := by
  rw [forall_iff_and_forall_ne part]
  refine and_congr ?_ (forall₂_congr fun other different => ?_)
  · cases values part with
    | nil =>
        rw [Filled, content_put_self]
        exact ⟨fun same => ⟨rfl, same⟩, And.right⟩
    | cons value rest =>
        rw [filled_cons, content_put_self]
        exact ⟨nofun, nofun⟩
  · exact filled_congr (before.content_put_of_ne different read) (values other)

end Draft

/-! ## Members and elements -/

variable {draft final : Draft} {name : String} {value : Json}

theorem decodeMembers_of_unnamed {rest : List (String × Json)}
    (unnamed : Part.ofName? name = none) :
    decodeMembers .value draft (Reading.ofMembers ((name, value) :: rest)) =
      decodeMembers .value draft (Reading.ofMembers rest) := by
  rw [Reading.ofMembers, decodeMembers, unnamed]
  simp only [Reading.skip_ofJson]
  rfl

theorem decodeMembers_of_named {part : Part} {rest : List (String × Json)}
    (named : Part.ofName? name = some part) (unread : draft.content part = none) :
    decodeMembers .value draft (Reading.ofMembers ((name, value) :: rest)) =
      part.decode value >>= fun read =>
        decodeMembers .value (draft.put part read) (Reading.ofMembers rest) := by
  have absent : draft.has part = false := by rw [draft.has_eq_isSome, unread]; rfl
  rw [Reading.ofMembers, decodeMembers, named]
  simp only [absent, Bool.false_eq_true, if_false]
  cases part with
  | values => simp only [Draft.read, bind_assoc, pure_bind]; rfl
  | logic => simp only [Draft.read, bind_assoc, pure_bind]; rfl
  | kind => simp only [Draft.read, bind_assoc, pure_bind]; rfl
  | children => rfl

theorem decodeMembers_of_has {part : Part} {rest : List (String × Json)}
    (named : Part.ofName? name = some part) (present : draft.content part ≠ none) :
    decodeMembers .value draft (Reading.ofMembers ((name, value) :: rest)) =
      .error (.duplicate part.name) := by
  have read : draft.has part = true := by
    rw [draft.has_eq_isSome]
    exact Option.isSome_iff_ne_none.2 present
  rw [Reading.ofMembers, decodeMembers, named]
  exact if_pos read

theorem decodeItems_cons {part : Part} {later : List Part} {rest : List Json} :
    decodeItems .value true (part :: later) draft (Reading.ofItems (value :: rest)) =
      part.decode value >>= fun read =>
        decodeItems .value true later (draft.put part read) (Reading.ofItems rest) := by
  rw [Reading.ofItems]
  cases part with
  | values => simp only [decodeItems, Draft.read, bind_assoc, pure_bind]; rfl
  | logic => simp only [decodeItems, Draft.read, bind_assoc, pure_bind]; rfl
  | kind => simp only [decodeItems, Draft.read, bind_assoc, pure_bind]; rfl
  | children => simp only [decodeItems]; rfl

theorem given_cons (part : Part) (rest : List (String × Json)) :
    given ((name, value) :: rest) part =
      if name ∈ part.names then value :: given rest part else given rest part := by
  by_cases named : name ∈ part.names
  · simp only [given, List.filter_cons, named, decide_true, if_true, List.map_cons]
  · simp only [given, List.filter_cons, named, decide_false, Bool.false_eq_true, if_false]

/-- A member fills its part, which must be open and not come again, and leaves
the others to the members behind it. -/
theorem filled_given_cons_iff {part : Part} (own : name ∈ part.names)
    {rest : List (String × Json)} :
    (∀ other, draft.Filled final other (given ((name, value) :: rest) other)) ↔
      (draft.content part = none ∧ given rest part = [] ∧
        part.ReadFrom (some value) (final.content part)) ∧
      ∀ other, other ≠ part → draft.Filled final other (given rest other) := by
  rw [Draft.forall_iff_and_forall_ne part, given_cons, if_pos own, Draft.filled_cons]
  refine and_congr_right fun _ => forall₂_congr fun other different => ?_
  have unnamed : name ∉ other.names := fun also => different (Part.eq_of_mem_names also own)
  rw [given_cons, if_neg unnamed]

/-- Reading members fills every part from the values given for it. -/
theorem decodeMembers_eq_ok {members : List (String × Json)} :
    decodeMembers .value draft (Reading.ofMembers members) = .ok final ↔
      ∀ part, draft.Filled final part (given members part) := by
  induction members generalizing draft with
  | nil =>
      rw [Reading.ofMembers, decodeMembers, Except.ok.injEq]
      exact ⟨fun same _ => same ▸ rfl, fun same => Draft.ext_content fun part => (same part).symm⟩
  | cons member rest ih =>
      obtain ⟨name, value⟩ := member
      cases named : Part.ofName? name with
      | none =>
          have unnamed : ∀ part : Part, name ∉ part.names := fun part listed => by
            rw [Part.ofName?_eq_some_iff.2 listed] at named
            cases named
          rw [decodeMembers_of_unnamed named, ih]
          simp only [given_cons, unnamed, if_false]
      | some part =>
          rw [filled_given_cons_iff (Part.ofName?_eq_some_iff.1 named)]
          by_cases unread : draft.content part = none
          · rw [decodeMembers_of_named named unread, Decode.bind_eq_ok]
            simp only [ih, Draft.filled_put_iff]
            constructor
            · rintro ⟨read, decoded, ⟨last, reached⟩, others⟩
              exact ⟨⟨unread, last, read, decoded, reached⟩, others⟩
            · rintro ⟨⟨-, last, read, decoded, reached⟩, others⟩
              exact ⟨read, decoded, ⟨last, reached⟩, others⟩
          · -- The part has been read from an earlier member, so this one is a duplicate.
            rw [decodeMembers_of_has named unread]
            exact ⟨nofun, fun filled => absurd filled.1.1 unread⟩

/-- A list is read as the object that names the parts in order. -/
theorem decodeItems_eq_decodeMembers {parts : List Part} {items : List Json}
    (distinct : parts.Nodup) (unread : ∀ part ∈ parts, draft.content part = none)
    (enough : items.length ≤ parts.length) :
    decodeItems .value true parts draft (Reading.ofItems items) =
      decodeMembers .value draft (Reading.ofMembers ((parts.map Part.name).zip items)) := by
  induction parts generalizing draft items with
  | nil =>
      cases List.length_eq_zero_iff.1 (Nat.le_zero.1 enough)
      rfl
  | cons part later ih =>
      cases items with
      | nil => rfl
      | cons value rest =>
          have named : Part.ofName? part.name = some part := by cases part <;> rfl
          have ⟨apart, distinct⟩ := List.nodup_cons.1 distinct
          rw [decodeItems_cons, List.map_cons, List.zip_cons_cons,
            decodeMembers_of_named named (unread part List.mem_cons_self)]
          refine congrArg (part.decode value >>= ·) (funext fun read => ?_)
          refine ih distinct (fun other listed => ?_) (Nat.le_of_succ_le_succ enough)
          have different : other ≠ part := fun same => apart (same ▸ listed)
          rw [draft.content_put_of_ne different]
          exact unread other (List.mem_cons_of_mem part listed)

theorem length_le_of_decodeItems_eq_ok {parts : List Part} {items : List Json}
    (decoded : decodeItems .value true parts draft (Reading.ofItems items) = .ok final) :
    items.length ≤ parts.length := by
  induction parts generalizing draft items with
  | nil =>
      cases items with
      | nil => exact Nat.le_refl _
      | cons value rest => cases decoded
  | cons part later ih =>
      cases items with
      | nil => exact Nat.zero_le _
      | cons value rest =>
          rw [decodeItems_cons, Decode.bind_eq_ok] at decoded
          rcases decoded with ⟨read, -, continued⟩
          exact Nat.succ_le_succ (ih continued)

/-- The object that names the parts in order gives each part by its
position. -/
theorem given_zip_names {items : List Json} (most : items.length ≤ 4) (part : Part) :
    given ((Part.all.map Part.name).zip items) part = items[part.position]?.toList := by
  rcases items with _ | ⟨first, _ | ⟨second, _ | ⟨third, _ | ⟨fourth, _ | ⟨fifth, rest⟩⟩⟩⟩⟩
  case cons.cons.cons.cons.cons =>
    simp only [List.length_cons] at most
    omega
  all_goals
    cases part <;> simp [given, Part.all, Part.name, Part.names, Part.position]

/-- Nothing has been read of the empty draft, so a part that is given at most
once is read from what is given. -/
theorem filled_empty (part : Part) (found : Option Json) :
    ({} : Draft).Filled final part found.toList ↔ part.ReadFrom found (final.content part) := by
  have unread : ({} : Draft).content part = none := by cases part <;> rfl
  cases found with
  | none => rw [Option.toList_none, Draft.Filled, unread, Part.ReadFrom]
  | some value =>
      rw [Option.toList_some, Draft.filled_cons]
      exact ⟨fun ⟨_, _, filled⟩ => filled, fun filled => ⟨unread, rfl, filled⟩⟩

/-- Reading a list fills every part from the element at its position. -/
theorem decodeItems_eq_ok {items : List Json} :
    decodeItems .value true Part.all {} (Reading.ofItems items) = .ok final ↔
      items.length ≤ 4 ∧
        ∀ part : Part, part.ReadFrom items[part.position]? (final.content part) := by
  have unread : ∀ part ∈ Part.all, ({} : Draft).content part = none := fun part _ => by
    cases part <;> rfl
  have read (most : items.length ≤ 4) :
      decodeItems .value true Part.all {} (Reading.ofItems items) = .ok final ↔
        ∀ part : Part, part.ReadFrom items[part.position]? (final.content part) := by
    rw [decodeItems_eq_decodeMembers (by decide) unread most, decodeMembers_eq_ok]
    simp only [given_zip_names most, filled_empty]
  constructor
  · intro decoded
    have most : items.length ≤ 4 := length_le_of_decodeItems_eq_ok decoded
    exact ⟨most, (read most).1 decoded⟩
  · rintro ⟨most, filled⟩
    exact (read most).2 filled

/-! ## Objects and lists -/

theorem decode_obj_eq_ok {members : List (String × Json)} {condition : Condition} :
    Condition.decode .value (Reading.ofJson (.obj members)) = .ok condition ↔
      ∃ (draft : Draft) (logic : Logic),
        decodeMembers .value {} (Reading.ofMembers members) = .ok draft ∧
        draft.logic = some logic ∧ draft.condition logic = .ok condition := by
  rw [Reading.ofJson, Condition.decode, Decode.bind_eq_ok]
  constructor
  · rintro ⟨o, entered, opened⟩
    cases entered
    rcases Decode.bind_eq_ok.1 opened with ⟨draft, read, finished⟩
    cases stated : draft.logic with
    | none =>
        rw [stated] at finished
        cases finished
    | some logic =>
        rw [stated] at finished
        exact ⟨draft, logic, read, stated, finished⟩
  · rintro ⟨draft, logic, read, stated, described⟩
    refine ⟨.value, rfl, Decode.bind_eq_ok.2 ⟨draft, read, ?_⟩⟩
    simp only [Reading.needClosed, stated, described]
    rfl

theorem decode_arr_eq_ok {items : List Json} {condition : Condition} :
    Condition.decode .value (Reading.ofJson (.arr items)) = .ok condition ↔
      ∃ (draft : Draft) (logic : Logic),
        decodeItems .value true Part.all {} (Reading.ofItems items) = .ok draft ∧
        draft.logic = some logic ∧ draft.condition logic = .ok condition := by
  rw [Reading.ofJson, Condition.decode, Decode.bind_eq_ok]
  constructor
  · rintro ⟨o, entered, opened⟩
    cases entered
    rcases Decode.bind_eq_ok.1 opened with ⟨draft, read, finished⟩
    cases stated : draft.logic with
    | none =>
        rw [stated] at finished
        cases finished
    | some logic =>
        rw [stated] at finished
        exact ⟨draft, logic, read, stated, finished⟩
  · rintro ⟨draft, logic, read, stated, described⟩
    refine ⟨.value, rfl, Decode.bind_eq_ok.2 ⟨draft, read, ?_⟩⟩
    simp only [stated, described]

/-- A draft is read from an object part by part, if no part is given twice. -/
theorem decodeMembers_eq_ok_iff_gives {members : List (String × Json)} :
    decodeMembers .value {} (Reading.ofMembers members) = .ok final ↔
      ∃ parts, Gives (.obj members) parts ∧
        ∀ part : Part, part.ReadFrom (parts part) (final.content part) := by
  rw [decodeMembers_eq_ok]
  constructor
  · intro filled
    have once (part : Part) : given members part = (given members part).head?.toList :=
      (filled part).eq_toList_head?
    refine ⟨_, .object once, fun part => ?_⟩
    rw [← filled_empty, ← once]
    exact filled part
  · rintro ⟨parts, gives, read⟩ part
    cases gives with
    | object once =>
        rw [once, filled_empty]
        exact read part

/-- A draft with a logic is read from a list part by part, if there are
neither too few elements nor too many. -/
theorem decodeItems_eq_ok_iff_gives {items : List Json} {logic : Logic}
    (stated : final.logic = some logic) :
    decodeItems .value true Part.all {} (Reading.ofItems items) = .ok final ↔
      ∃ parts, Gives (.arr items) parts ∧
        ∀ part : Part, part.ReadFrom (parts part) (final.content part) := by
  rw [decodeItems_eq_ok]
  constructor
  · rintro ⟨most, read⟩
    refine ⟨_, .list ?_ most fun _ => rfl, read⟩
    -- The logic is the second element, so there are at least two.
    by_contra few
    have present : Part.logic.ReadFrom items[1]? final.logic := read .logic
    rw [List.getElem?_eq_none (Nat.le_of_lt_succ (Nat.lt_of_not_le few)), stated] at present
    cases present
  · rintro ⟨parts, gives, read⟩
    cases gives with
    | list least most placed => exact ⟨most, fun part => placed part ▸ read part⟩

/-- A document is decoded from what it gives for its parts. -/
theorem decode_eq_ok_iff_gives {condition : Condition} :
    Condition.decode .value (Reading.ofJson value) = .ok condition ↔
      ∃ (draft : Draft) (logic : Logic),
        (∃ parts, Gives value parts ∧
          ∀ part : Part, part.ReadFrom (parts part) (draft.content part)) ∧
        draft.logic = some logic ∧ draft.condition logic = .ok condition := by
  cases value with
  | null | bool truth | num number | str text =>
      exact ⟨nofun, fun ⟨_, _, ⟨_, gives, _⟩, _⟩ => nomatch gives⟩
  | obj members =>
      rw [decode_obj_eq_ok]
      simp only [decodeMembers_eq_ok_iff_gives]
  | arr items =>
      rw [decode_arr_eq_ok]
      refine exists_congr fun draft => exists_congr fun logic => ?_
      exact and_congr_left fun ⟨stated, _⟩ => decodeItems_eq_ok_iff_gives stated

end Condition

end CriteriaSearch
