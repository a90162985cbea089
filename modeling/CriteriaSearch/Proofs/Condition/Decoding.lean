import CriteriaSearch.Proofs.Condition.Drafts

namespace CriteriaSearch

/-!
# Decoding condition documents

A value is decoded by reading a draft of it and putting the draft together.
The parts of a draft are those of an outline: codes are looked up by the texts
that they come to, values and kinds have defaults, and children are decoded in
turn.  So the decoder is compared with the grammar by induction on the
document, and neither accepts more than the other.
-/

/-! ## Codes -/

/-- A search finds the only element that fits. -/
theorem find?_eq_some_iff_of_unique {α : Type} {fits : α → Bool} {items : List α} {item : α}
    (listed : item ∈ items)
    (unique : ∀ other, fits other = true → fits item = true → other = item) :
    items.find? fits = some item ↔ fits item = true := by
  refine ⟨List.find?_some, fun own => ?_⟩
  cases found : items.find? fits with
  | none => exact absurd own (List.find?_eq_none.1 found item listed)
  | some other => rw [unique other (List.find?_some found) own]

theorem normalText_iff {value : Json} {text : String} :
    NormalText value text ↔
      ∃ code, Code.ofJson? value = some code ∧ String.ofList code.normal = text := by
  constructor
  · intro normal
    cases normal with
    | number n unsigned => exact ⟨.number n.val.toNat, if_pos unsigned, rfl⟩
    | string s => exact ⟨.name s, rfl, rfl⟩
  · rintro ⟨code, read, rfl⟩
    rcases value with _ | _ | (n | _) | s | _ | _
    case num.integer =>
      rw [Code.ofJson?] at read
      split at read
      · rename_i unsigned
        cases read
        exact .number n unsigned
      · cases read
    case str =>
      cases read
      exact .string s
    all_goals cases read

/-- A choice is found by its two normal forms, written as texts. -/
theorem fits_iff_mem_texts {normal first second : List Char} {texts : List String}
    (forms : texts = [String.ofList first, String.ofList second]) :
    (decide (normal = first) || decide (normal = second)) = true ↔
      String.ofList normal ∈ texts := by
  rw [forms, Bool.or_eq_true, decide_eq_true_iff, decide_eq_true_iff, List.mem_cons,
    List.mem_singleton, String.ofList_inj, String.ofList_inj]

namespace Logic

theorem texts_eq (logic : Logic) :
    logic.texts = [String.ofList (Code.number logic.number).normal,
      String.ofList (Code.name logic.name).normal] := by
  cases logic <;> decide

theorem eq_of_mem_texts {first second : Logic} :
    ∀ text ∈ first.texts, text ∈ second.texts → first = second := by
  cases first <;> cases second <;> decide

theorem ofCode?_eq_some_iff {code : Code} {logic : Logic} :
    ofCode? code = some logic ↔ String.ofList code.normal ∈ logic.texts := by
  rw [ofCode?, find?_eq_some_iff_of_unique, fits_iff_mem_texts logic.texts_eq]
  · cases logic <;> decide
  · intro other also own
    rw [fits_iff_mem_texts (texts_eq _)] at also own
    exact eq_of_mem_texts _ also own

end Logic

namespace LeafKind

theorem texts_eq (kind : LeafKind) :
    kind.texts = [String.ofList (Code.number kind.number).normal,
      String.ofList (Code.name kind.name).normal] := by
  cases kind <;> decide

theorem eq_of_mem_texts {first second : LeafKind} :
    ∀ text ∈ first.texts, text ∈ second.texts → first = second := by
  cases first <;> cases second <;> decide

theorem ofCode?_eq_some_iff {code : Code} {kind : LeafKind} :
    ofCode? code = some kind ↔ String.ofList code.normal ∈ kind.texts := by
  rw [ofCode?, find?_eq_some_iff_of_unique, fits_iff_mem_texts kind.texts_eq]
  · cases kind <;> decide
  · intro other also own
    rw [fits_iff_mem_texts (texts_eq _)] at also own
    exact eq_of_mem_texts _ also own

end LeafKind

/-- A code is read from a value and then looked up among the choices. -/
theorem spelledBy_iff {value : Json} {texts : List String} :
    SpelledBy value texts ↔
      ∃ code, Code.ofJson? value = some code ∧ String.ofList code.normal ∈ texts := by
  constructor
  · rintro ⟨text, listed, normal⟩
    rcases normalText_iff.1 normal with ⟨code, read, rfl⟩
    exact ⟨code, read, listed⟩
  · rintro ⟨code, read, listed⟩
    exact ⟨_, listed, normalText_iff.2 ⟨code, read, rfl⟩⟩

theorem Code.decode_eq_ok {value : Json} (canonical : value.Canonical) {code : Code} :
    Code.decode .value (Reading.ofJson value) = .ok code ↔ Code.ofJson? value = some code := by
  rw [Code.decode, Decode.bind_eq_ok]
  constructor
  · rintro ⟨held, read, judged⟩
    rw [Decode.json_ofJson canonical] at read
    cases read
    cases found : ofJson? value with
    | none =>
        rw [found] at judged
        cases judged
    | some other =>
        rw [found] at judged
        exact congrArg some (Except.ok.inj judged)
  · intro found
    refine ⟨value, Decode.json_ofJson canonical, ?_⟩
    rw [found]
    rfl

/-- A choice is refused where there is none. -/
theorem elim_eq_ok {ε α : Type} {choice : Option α} {problem : ε} {chosen : α} :
    choice.elim (.error problem) .ok = Except.ok chosen ↔ choice = some chosen := by
  cases choice with
  | none => exact ⟨nofun, nofun⟩
  | some found => rw [Option.elim_some, Except.ok.injEq, Option.some.injEq]

theorem Logic.decode_eq_ok {value : Json} (canonical : value.Canonical) {logic : Logic} :
    Logic.decode .value (Reading.ofJson value) = .ok logic ↔ SpelledBy value logic.texts := by
  rw [Logic.decode, Decode.bind_eq_ok, spelledBy_iff]
  refine exists_congr fun code => and_congr (Code.decode_eq_ok canonical) ?_
  rw [← ofCode?_eq_some_iff, ← elim_eq_ok]
  cases ofCode? code <;> rfl

theorem LeafKind.decode_eq_ok {value : Json} (canonical : value.Canonical) {kind : LeafKind} :
    LeafKind.decode .value (Reading.ofJson value) = .ok kind ↔ SpelledBy value kind.texts := by
  rw [LeafKind.decode, Decode.bind_eq_ok, spelledBy_iff]
  refine exists_congr fun code => and_congr (Code.decode_eq_ok canonical) ?_
  rw [← ofCode?_eq_some_iff, ← elim_eq_ok]
  cases ofCode? code <;> rfl

namespace Condition

/-! ## The parts of a draft and those of an outline -/

open Draft (Part)

variable {draft : Draft} {value : Json}

theorem fieldsStated_iff {found : Option Json}
    (canonical : ∀ value, found = some value → value.Canonical) {table : FieldMap (List Json)} :
    FieldsStated found table.entries ↔
      ∃ read, Part.values.ReadFrom found read ∧ read.getD .empty = table := by
  constructor
  · intro stated
    generalize held : table.entries = fields at stated
    cases stated with
    | absent => exact ⟨none, rfl, FieldMap.ext held.symm⟩
    | object fields =>
        subst held
        exact ⟨some table,
          ⟨table, (Decode.table_list_json_eq_ok (canonical _ rfl)).2 rfl, rfl⟩, rfl⟩
  · rintro ⟨read, readFrom, rfl⟩
    cases found with
    | none =>
        cases readFrom
        exact .absent
    | some value =>
        rcases readFrom with ⟨table, decoded, rfl⟩
        rw [(Decode.table_list_json_eq_ok (canonical value rfl)).1 decoded]
        exact .object table.entries

theorem logicStated_iff {found : Option Json}
    (canonical : ∀ value, found = some value → value.Canonical) {logic : Logic} :
    LogicStated found logic ↔ Part.logic.ReadFrom found (some logic) := by
  constructor
  · rintro ⟨spelled⟩
    exact ⟨logic, (Logic.decode_eq_ok (canonical _ rfl)).2 spelled, rfl⟩
  · intro readFrom
    cases found with
    | none => cases readFrom
    | some value =>
        rcases readFrom with ⟨_, decoded, same⟩
        cases same
        exact .code ((Logic.decode_eq_ok (canonical value rfl)).1 decoded)

theorem nullable_of_ne_null {ε α : Type} {decode : Decoder ε α} (present : value ≠ .null) :
    Decode.nullable decode .value (Reading.ofJson value) =
      (decode .value (Reading.ofJson value)).map some := by
  cases value with
  | null => exact absurd rfl present
  | _ => rfl

theorem kindStated_iff {found : Option Json}
    (canonical : ∀ value, found = some value → value.Canonical) {kind : Option LeafKind} :
    KindStated found kind ↔
      ∃ read, Part.kind.ReadFrom found read ∧ read.getD none = kind := by
  constructor
  · intro stated
    cases stated with
    | absent => exact ⟨none, rfl, rfl⟩
    | null => exact ⟨some none, ⟨none, rfl, rfl⟩, rfl⟩
    | @code value kind spelled =>
        have present : value ≠ .null := by
          rintro rfl
          rcases spelled with ⟨_, _, impossible⟩
          cases impossible
        refine ⟨some (some kind), ⟨some kind, ?_, rfl⟩, rfl⟩
        rw [Part.decode, nullable_of_ne_null present,
          (LeafKind.decode_eq_ok (canonical value rfl)).2 spelled]
        rfl
  · rintro ⟨read, readFrom, rfl⟩
    cases found with
    | none =>
        cases readFrom
        exact .absent
    | some value =>
        rcases readFrom with ⟨kind, decoded, rfl⟩
        by_cases null : value = .null
        · subst null
          cases decoded
          exact .null
        · rw [Part.decode, nullable_of_ne_null null] at decoded
          rcases Decode.map_eq_ok.1 decoded with ⟨kind, read, rfl⟩
          exact .code ((LeafKind.decode_eq_ok (canonical value rfl)).1 read)

theorem decodeAll_eq_elements (readings : List Reading) :
    decodeAll .value readings = Decode.elements Condition.decode .value readings := by
  induction readings with
  | nil => rfl
  | cons reading rest ih => rw [decodeAll, Decode.elements, ih]

theorem decodeChildren_eq_list (reading : Reading) :
    decodeChildren .value reading = Decode.list Condition.decode .value reading := by
  cases reading with
  | arr items closed =>
      rw [decodeChildren, Decode.list]
      change (decodeAll .value items >>= _) =
        (Decode.elements Condition.decode .value items >>= _)
      rw [decodeAll_eq_elements]
  | _ => rfl

theorem decodeChildren_eq_ok {conditions : List Condition} :
    decodeChildren .value (Reading.ofJson value) = .ok conditions ↔
      ∃ items, value = .arr items ∧ List.Forall₂ (fun item condition =>
        Condition.decode .value (Reading.ofJson item) = .ok condition) items conditions := by
  cases value with
  | null | bool truth | num number | str text | obj members => exact ⟨nofun, nofun⟩
  | arr items =>
      have decoded_iff (children : List Condition) :
          decodeAll .value (Reading.ofItems items) = .ok children ↔
            List.Forall₂ (fun item condition =>
              Condition.decode .value (Reading.ofJson item) = .ok condition) items children := by
        rw [decodeAll_eq_elements, Decode.elements_eq_ok, Reading.ofItems_eq_map,
          List.forall₂_map_left_iff]
      rw [Reading.ofJson, decodeChildren, Decode.bind_eq_ok]
      constructor
      · rintro ⟨o, entered, opened⟩
        cases entered
        rcases Decode.bind_eq_ok.1 opened with ⟨children, decoded, finished⟩
        cases finished
        exact ⟨items, rfl, (decoded_iff _).1 decoded⟩
      · rintro ⟨_, same, each⟩
        cases same
        exact ⟨.value, rfl, Decode.bind_eq_ok.2 ⟨conditions, (decoded_iff _).2 each, rfl⟩⟩

theorem childrenStated_iff {found : Option Json} {conditions : List Condition} :
    (∃ items, ChildrenStated found items ∧ List.Forall₂ (fun item condition =>
        Condition.decode .value (Reading.ofJson item) = .ok condition) items conditions) ↔
      ∃ read, Part.children.ReadFrom found read ∧ read.getD [] = conditions := by
  constructor
  · rintro ⟨items, stated, each⟩
    cases stated with
    | absent => exact ⟨none, rfl, (List.forall₂_nil_left_iff.1 each).symm⟩
    | list items =>
        exact ⟨some conditions, ⟨conditions, decodeChildren_eq_ok.2 ⟨items, rfl, each⟩, rfl⟩, rfl⟩
  · rintro ⟨read, readFrom, rfl⟩
    cases found with
    | none =>
        cases readFrom
        exact ⟨[], .absent, .nil⟩
    | some value =>
        rcases readFrom with ⟨conditions, decoded, rfl⟩
        rcases decodeChildren_eq_ok.1 decoded with ⟨items, rfl, each⟩
        exact ⟨items, .list items, each⟩

/-- A draft without children is a leaf, and one with children is a group. -/
theorem Draft.condition_eq_ok {logic : Logic} {condition : Condition} :
    draft.condition logic = .ok condition ↔
      (draft.children.getD [] ≠ [] ∧ .group logic (draft.children.getD []) = condition) ∨
      (draft.children.getD [] = [] ∧ ∃ test : Leaf, draft.kind.getD none = some test.kind ∧
        test.Holds (draft.values.getD .empty).entries ∧ .leaf logic test = condition) := by
  rw [Draft.condition]
  cases draft.children.getD [] with
  | cons child rest => simp
  | nil =>
      cases draft.kind.getD none with
      | none => simp
      | some kind =>
          have filled : ofValues kind logic (draft.values.getD .empty) = .ok condition ↔
              ∃ test : Leaf, some kind = some test.kind ∧
                test.Holds (draft.values.getD .empty).entries ∧ .leaf logic test = condition := by
            rw [ofValues, Decode.map_eq_ok]
            simp only [Leaf.insertAll_empty_eq_ok (draft.values.getD .empty).sorted,
              Option.some.injEq, and_assoc, eq_comm (a := kind)]
          simp only [← filled, ne_eq, not_true, false_and, false_or, true_and]
          cases ofValues kind logic (draft.values.getD .empty) <;> simp

/-- Every outline of a value is that of a draft read from it. -/
theorem exists_draft_of_statedBy (canonical : value.Canonical) {outline : Outline}
    (stated : outline.StatedBy value) {conditions : List Condition}
    (decoded : List.Forall₂ (fun item condition =>
      Condition.decode .value (Reading.ofJson item) = .ok condition)
        outline.children conditions) :
    ∃ (parts : Part → Option Json) (draft : Draft), Gives value parts ∧
      (∀ part : Part, part.ReadFrom (parts part) (draft.content part)) ∧
      draft.logic = some outline.logic ∧ (draft.values.getD .empty).entries = outline.fields ∧
      draft.kind.getD none = outline.kind ∧ draft.children.getD [] = conditions := by
  have sorted := stated.sorted_fields canonical
  cases stated with
  | @parts parts gives fieldsStated logicStated kindStated childrenStated =>
      have inside (part : Part) (found : Json) (present : parts part = some found) :
          found.Canonical := (gives.lt_and_canonical present).2 canonical
      rcases (@fieldsStated_iff _ (inside .values) ⟨outline.fields, sorted⟩).1 fieldsStated with
        ⟨values, valuesRead, valuesSame⟩
      rcases (kindStated_iff (inside .kind)).1 kindStated with ⟨kind, kindRead, kindSame⟩
      rcases childrenStated_iff.1 ⟨_, childrenStated, decoded⟩ with
        ⟨children, childrenRead, childrenSame⟩
      have logicRead := (logicStated_iff (inside .logic)).1 logicStated
      refine ⟨parts, ⟨values, some outline.logic, kind, children⟩, gives, ?_, rfl,
        congrArg FieldMap.entries valuesSame, kindSame, childrenSame⟩
      intro part
      cases part with
      | values => exact valuesRead
      | logic => exact logicRead
      | kind => exact kindRead
      | children => exact childrenRead

/-- Every draft read from a value is that of an outline. -/
theorem exists_statedBy_of_draft (canonical : value.Canonical) {parts : Part → Option Json}
    (gives : Gives value parts)
    (read : ∀ part : Part, part.ReadFrom (parts part) (draft.content part)) {logic : Logic}
    (logicRead : draft.logic = some logic) :
    ∃ items, Outline.StatedBy value ⟨(draft.values.getD .empty).entries, logic,
        draft.kind.getD none, items⟩ ∧
      List.Forall₂ (fun item condition =>
        Condition.decode .value (Reading.ofJson item) = .ok condition)
          items (draft.children.getD []) := by
  have inside (part : Part) (found : Json) (present : parts part = some found) :
      found.Canonical := (gives.lt_and_canonical present).2 canonical
  have fromLogic : Part.logic.ReadFrom (parts .logic) draft.logic := read .logic
  rw [logicRead] at fromLogic
  rcases childrenStated_iff.2 ⟨_, read .children, rfl⟩ with ⟨items, childrenStated, decoded⟩
  exact ⟨items, .parts gives ((fieldsStated_iff (inside .values)).2 ⟨_, read .values, rfl⟩)
    ((logicStated_iff (inside .logic)).2 fromLogic)
    ((kindStated_iff (inside .kind)).2 ⟨_, read .kind, rfl⟩) childrenStated, decoded⟩

/-- The decoder gives the condition that a document stands for, and it fails
where the value is no document. -/
theorem decode_eq_ok_iff_describes (canonical : value.Canonical) {condition : Condition} :
    Condition.decode .value (Reading.ofJson value) = .ok condition ↔
      Describes value condition := by
  induction value, canonical using document_induction generalizing condition with
  | step value canonical ih =>
      -- Children are decoded as they are described, whichever outline they are taken from.
      have each {outline : Outline} (stated : outline.StatedBy value)
          {conditions : List Condition} :
          List.Forall₂ (fun child condition =>
            Condition.decode .value (Reading.ofJson child) = .ok condition)
              outline.children conditions ↔
            List.Forall₂ Describes outline.children conditions :=
        forall₂_congr_left fun child listed _ => ih outline stated child listed
      rw [decode_eq_ok_iff_gives]
      constructor
      · rintro ⟨draft, logic, ⟨parts, gives, read⟩, logicRead, completed⟩
        rcases exists_statedBy_of_draft canonical gives read logicRead with
          ⟨items, stated, decoded⟩
        rcases Draft.condition_eq_ok.1 completed with
          ⟨inhabited, rfl⟩ | ⟨childless, test, kind, holds, rfl⟩
        · refine .group stated (fun none => inhabited ?_) ((each stated).1 decoded)
          rw [show items = [] from none] at decoded
          exact List.forall₂_nil_left_iff.1 decoded
        · rw [childless] at decoded
          exact .leaf stated (List.forall₂_nil_right_iff.1 decoded) kind holds
      · intro describes
        cases describes with
        | leaf stated childless kind holds =>
            rcases exists_draft_of_statedBy canonical stated
              (List.forall₂_nil_right_iff.2 childless) with
              ⟨parts, draft, gives, read, logicRead, fields, kindSame, none⟩
            exact ⟨draft, _, ⟨parts, gives, read⟩, logicRead, Draft.condition_eq_ok.2 (Or.inr
              ⟨none, _, kindSame.trans kind, fields ▸ holds, rfl⟩)⟩
        | group stated inhabited described =>
            rcases exists_draft_of_statedBy canonical stated ((each stated).2 described) with
              ⟨parts, draft, gives, read, logicRead, fields, kindSame, rfl⟩
            refine ⟨draft, _, ⟨parts, gives, read⟩, logicRead, Draft.condition_eq_ok.2 (Or.inl
              ⟨fun none => inhabited ?_, rfl⟩)⟩
            rw [none] at described
            exact List.forall₂_nil_right_iff.1 described

/-- A value is decoded exactly if it is a condition document, and then the
condition is the one that the document stands for. -/
theorem decodes_exactly_the_grammar (canonical : value.Canonical) :
    ((∃ condition, Decode.fromValue Condition.decode value = .ok condition) ↔ Accepted value) ∧
      ∀ condition, Decode.fromValue Condition.decode value = .ok condition ↔
        Describes value condition := by
  have described (condition : Condition) :
      Decode.fromValue Condition.decode value = .ok condition ↔ Describes value condition :=
    decode_eq_ok_iff_describes canonical
  refine ⟨?_, described⟩
  rw [accepted_iff_exists_describes canonical]
  exact exists_congr described

/-- A group that drops a kind and values of its own, around a leaf under other
names and spellings. -/
theorem decodes_exactly_the_grammar_nested :
    let leaf := Json.obj [("pair", .obj [("tag", .arr [.str "a", .bool true])]),
      ("queryLogic", .num (.integer ⟨2, by decide, by decide⟩)), ("queryType", .str "terms")]
    let group := Json.obj [("children", .arr [leaf]), ("fieldValues", .obj [("x", .arr [.null])]),
      ("logic", .str "must_not"), ("nodeType", .str "1")]
    let described := Condition.group .mustNot
      [.leaf .must (.terms ⟨[("tag", [.text "a", .truth true])], List.pairwise_singleton _ _⟩)]
    group.Canonical ∧ Accepted group ∧ Describes group described := by
  intro leaf group described
  have canonical : group.Canonical := by
    simp only [group, leaf, Json.Canonical, Json.CanonicalMembers, Json.CanonicalItems,
      Members.Sorted]
    decide
  have decoded : Decode.fromValue Condition.decode group = .ok described := by rfl
  have grammar := decodes_exactly_the_grammar canonical
  exact ⟨canonical, grammar.1.1 ⟨described, decoded⟩, (grammar.2 described).1 decoded⟩

end Condition

end CriteriaSearch
