import CriteriaSearch.Proofs.Condition.Decoding
import Mathlib

namespace CriteriaSearch

/-!
# The spellings of a condition

A condition can be written in many ways.  Every part may be named by either
of its names or given by position, a logic or a kind may be written as its
number, as the digits of it or as its name in any letter case and with
underscores anywhere, and values that a leaf does not keep may be anything.
A group may even carry a kind and values that mean nothing.

`Writes` relates a condition to all these documents.  Two sorts of conditions
are left out: a group without children would be read as a leaf, and the names
in an object never repeat and always increase, so no document asks for
presence in another order.  All other conditions have a document, and whatever
their document is, it is decoded to the condition that it writes.
-/

/-- A name and a spelling of it.  Letters are kept or put in lower case, and
underscores come and go. -/
inductive Respells : List Char → List Char → Prop
  | done : Respells [] []
  | kept (letter : Char) {name written : List Char} (rest : Respells name written) :
      Respells (letter :: name) (letter :: written)
  | lowered (letter : Char) {name written : List Char} (rest : Respells name written) :
      Respells (letter :: name) (letter.toLower :: written)
  | inserted {name written : List Char} (rest : Respells name written) :
      Respells name ('_' :: written)
  | removed {name written : List Char} (rest : Respells name written) :
      Respells ('_' :: name) written

/-- The values that write a choice with this number and this name. -/
inductive Spells (code : Nat) (title : String) : Json → Prop
  | number : Spells code title (Json.ofNat code)
  | digits : Spells code title (.str (toString code))
  | name {written : String} (respells : Respells title.toList written.toList) :
      Spells code title (.str written)

namespace Condition

open Draft (Part)

/-- The documents that write a condition. -/
inductive Writes : Json → Condition → Prop
  | leaf {value logicCode kindCode : Json} {parts : Part → Option Json} {logic : Logic}
      {test : Leaf} {fields : List (String × List Json)} (gives : Gives value parts)
      (logicGiven : parts .logic = some logicCode)
      (logicSpelled : Spells logic.number logic.name logicCode)
      (kindGiven : parts .kind = some kindCode)
      (kindSpelled : Spells test.kind.number test.kind.name kindCode)
      (fieldsStated : FieldsStated (parts .values) fields) (holds : test.Holds fields)
      (childless : ChildrenStated (parts .children) []) : Writes value (.leaf logic test)
  | group {value logicCode : Json} {parts : Part → Option Json} {logic : Logic}
      {kind : Option LeafKind} {fields : List (String × List Json)} {items : List Json}
      {children : List Condition} (gives : Gives value parts)
      (logicGiven : parts .logic = some logicCode)
      (logicSpelled : Spells logic.number logic.name logicCode)
      (kindStated : KindStated (parts .kind) kind)
      (fieldsStated : FieldsStated (parts .values) fields)
      (childrenGiven : parts .children = some (.arr items))
      (each : List.Forall₂ Writes items children) : Writes value (.group logic children)

/-- Every group has children, and the names of fields that have to be there
increase. -/
inductive Writable : Condition → Prop
  | leaf {logic : Logic} {test : Leaf}
      (increasing : ∀ names, test = .presence names → names.Pairwise (· < ·)) :
      Writable (.leaf logic test)
  | group {logic : Logic} {children : List Condition} (inhabited : children ≠ [])
      (each : ∀ child ∈ children, Writable child) : Writable (.group logic children)

end Condition

/-! ## Spellings of codes -/

theorem toLower_eq_underscore_iff {letter : Char} : letter.toLower = '_' ↔ letter = '_' := by
  constructor
  · intro lowered
    have upper : letter.toUpper = '_' := by
      rw [← Char.toUpper_toLower_eq_toUpper, lowered]
      rfl
    have noLetter : letter.isAlpha = false := by
      rw [← Char.isUpper_toUpper_eq_isAlpha, upper]
      rfl
    have notLower : ¬ letter.isLower := fun lower => by
      rw [Char.isAlpha, lower, Bool.or_true] at noLetter
      cases noLetter
    rw [← Char.toUpper_eq_of_not_isLower notLower, upper]
  · rintro rfl
    rfl

/-- Underscores and letter case do not matter for the normal form of a name. -/
theorem normal_eq_of_respells {name written : List Char} (respells : Respells name written) :
    (written.filter (· ≠ '_')).map Char.toUpper = (name.filter (· ≠ '_')).map Char.toUpper := by
  induction respells with
  | done => rfl
  | kept letter rest ih =>
      rw [List.filter_cons, List.filter_cons]
      split
      · rw [List.map_cons, List.map_cons, ih]
      · exact ih
  | lowered letter rest ih =>
      rw [List.filter_cons, List.filter_cons]
      simp only [ne_eq, toLower_eq_underscore_iff]
      split
      · rw [List.map_cons, List.map_cons, ih, Char.toUpper_toLower_eq_toUpper]
      · exact ih
  | inserted rest ih => exact ih
  | removed rest ih => exact ih

/-- Whatever writes a choice comes to one of its texts. -/
theorem spelledBy_of_spells {code : Nat} {title : String} {texts : List String} {value : Json}
    (forms : texts = [String.ofList (Code.number code).normal,
      String.ofList (Code.name title).normal])
    (unsigned : Code.ofJson? (Json.ofNat code) = some (.number code))
    (digits : (Code.name (toString code)).normal = (Code.number code).normal)
    (spells : Spells code title value) : SpelledBy value texts := by
  rw [spelledBy_iff, forms]
  cases spells with
  | number => exact ⟨_, unsigned, List.mem_cons_self⟩
  | digits => exact ⟨_, rfl, digits ▸ List.mem_cons_self⟩
  | name respells =>
      have same := normal_eq_of_respells respells
      exact ⟨_, rfl, List.mem_cons_of_mem _ (List.mem_singleton.2 (congrArg String.ofList same))⟩

theorem Logic.spelledBy_of_spells {logic : Logic} {value : Json}
    (spells : Spells logic.number logic.name value) : SpelledBy value logic.texts := by
  refine CriteriaSearch.spelledBy_of_spells logic.texts_eq ?_ ?_ spells
  · cases logic <;> rfl
  · cases logic <;> decide

theorem LeafKind.spelledBy_of_spells {kind : LeafKind} {value : Json}
    (spells : Spells kind.number kind.name value) : SpelledBy value kind.texts := by
  refine CriteriaSearch.spelledBy_of_spells kind.texts_eq ?_ ?_ spells
  · cases kind <;> rfl
  · cases kind <;> decide

namespace Condition

open Draft (Part)

/-! ## Documents stand for what they write -/

/-- Values that are related to a list are so by any relation that agrees on
the elements of that list. -/
theorem forall₂_imp_right {α β : Type} {first second : α → β → Prop} {items : List α}
    {values : List β} (imp : ∀ value ∈ values, ∀ item, first item value → second item value)
    (related : List.Forall₂ first items values) : List.Forall₂ second items values := by
  induction related with
  | nil => exact .nil
  | cons head rest ih =>
      exact .cons (imp _ List.mem_cons_self _ head)
        (ih fun value listed => imp value (List.mem_cons_of_mem _ listed))

theorem describes_of_writes {condition : Condition} (writable : condition.Writable) {value : Json}
    (writes : Writes value condition) : Describes value condition := by
  -- The relation of documents is nested in lists, so the induction is on the condition.
  induction writable generalizing value with
  | @leaf logic test increasing =>
      cases writes with
      | @leaf _ _ _ _ _ _ fields gives logicGiven logicSpelled kindGiven kindSpelled
          fieldsStated holds childless =>
          have stated : Outline.StatedBy value ⟨fields, logic, some test.kind, []⟩ :=
            .parts gives fieldsStated
              (logicGiven ▸ .code (Logic.spelledBy_of_spells logicSpelled))
              (kindGiven ▸ .code (LeafKind.spelledBy_of_spells kindSpelled)) childless
          exact .leaf stated rfl rfl holds
  | @group logic children inhabited _ ih =>
      cases writes with
      | @group _ _ _ _ kind fields items _ gives logicGiven logicSpelled kindStated
          fieldsStated childrenGiven each =>
          have stated : Outline.StatedBy value ⟨fields, logic, kind, items⟩ :=
            .parts gives fieldsStated
              (logicGiven ▸ .code (Logic.spelledBy_of_spells logicSpelled)) kindStated
              (childrenGiven ▸ .list items)
          refine .group stated (fun none => inhabited ?_)
            (forall₂_imp_right (fun child listed _ => ih child listed) each)
          rw [show items = [] from none] at each
          exact List.forall₂_nil_left_iff.1 each

end Condition

/-! ## A document for every writable condition -/

/-- The value of an end of a range, and null where there is none. -/
def endValue (bound : Option Bound) : Json :=
  (bound.map Bound.value).getD .null

/-- Values that state a range entry. -/
def RangeEntry.values : RangeEntry → List Json
  | .unset => []
  | .ignored => [.null]
  | .bounds ends => [.obj [("from", endValue ends.lower),
      ("include_lower", .bool ends.includeLower), ("include_upper", .bool ends.includeUpper),
      ("to", endValue ends.upper)]]

namespace Leaf

/-- The fields of a leaf with values that it holds. -/
def fields : Leaf → List (String × List Json)
  | .terms held => held.entries.map fun entry => (entry.1, entry.2.map Scalar.toJson)
  | .phrase held => held.entries.map fun entry => (entry.1, entry.2.map .str)
  | .range held => held.entries.map fun entry => (entry.1, entry.2.values)
  | .start held | .pattern held => held.entries.map fun entry => (entry.1, [.str entry.2])
  | .presence names => names.map fun name => (name, [])

/-- The ends of ranges are canonical values. -/
def BoundsCanonical : Leaf → Prop
  | .range held => ∀ entry ∈ held.entries, ∀ bounds, entry.2 = .bounds bounds →
      ∀ bound, bounds.lower = some bound ∨ bounds.upper = some bound → bound.value.Canonical
  | .terms _ | .phrase _ | .start _ | .pattern _ | .presence _ => True

end Leaf

theorem endStated_endValue (bound : Option Bound) : EndStated (some (endValue bound)) bound := by
  cases bound with
  | none => exact .null
  | some bound => exact .given bound

theorem rangeStated_values (entry : RangeEntry) : RangeStated entry.values entry := by
  cases entry with
  | unset => exact .unset
  | ignored => exact .ignored [] nofun
  | bounds bounds => exact .bounds [] {
      lower := endStated_endValue bounds.lower
      upper := endStated_endValue bounds.upper
      includeLower := .given bounds.includeLower
      includeUpper := .given bounds.includeUpper }

theorem canonical_endValue {bound : Option Bound}
    (canonical : ∀ held, bound = some held → held.value.Canonical) :
    (endValue bound).Canonical := by
  cases bound with
  | none => trivial
  | some held => exact canonical held rfl

theorem canonical_of_mem_values {entry : RangeEntry}
    (canonical : ∀ bounds, entry = .bounds bounds → ∀ bound,
      bounds.lower = some bound ∨ bounds.upper = some bound → bound.value.Canonical)
    {value : Json} (given : value ∈ entry.values) : value.Canonical := by
  cases entry with
  | unset => cases given
  | ignored =>
      rw [List.mem_singleton.1 given]
      trivial
  | bounds ends =>
      have lower := canonical_endValue fun bound same => canonical ends rfl bound (Or.inl same)
      have upper := canonical_endValue fun bound same => canonical ends rfl bound (Or.inr same)
      rw [List.mem_singleton.1 given, Json.canonical_obj]
      refine ⟨Members.sorted_iff_pairwise_names.2 ?_, ?_⟩
      · exact (by decide : ["from", "include_lower", "include_upper", "to"].Pairwise (· < ·))
      · simp only [List.forall_mem_cons, List.not_mem_nil, false_imp_iff, implies_true, and_true]
        exact ⟨lower, trivial, trivial, upper⟩

theorem entrywise_map {α : Type} {stated : List Json → α → Prop} {write : α → List Json}
    (states : ∀ entry, stated (write entry) entry) (held : List (String × α)) :
    Entrywise stated (held.map fun entry => (entry.1, write entry.2)) held := by
  rw [Entrywise, List.forall₂_map_left_iff, List.forall₂_same]
  exact fun entry _ => ⟨rfl, states entry.2⟩

namespace Leaf

theorem holds_fields (test : Leaf) : test.Holds test.fields := by
  cases test with
  | terms held =>
      rw [fields, Holds]
      refine entrywise_map (fun _ => ?_) held.entries
      rfl
  | phrase held =>
      rw [fields, Holds]
      refine entrywise_map (fun _ => ?_) held.entries
      rfl
  | range held =>
      rw [fields, Holds]
      exact entrywise_map rangeStated_values held.entries
  | start held =>
      rw [fields, Holds]
      exact entrywise_map (fun text => TextStated.string text []) held.entries
  | pattern held =>
      rw [fields, Holds]
      exact entrywise_map (fun text => TextStated.string text []) held.entries
  | presence names =>
      rw [fields, Holds, List.map_map]
      exact List.map_id names

theorem sorted_fields {test : Leaf}
    (increasing : ∀ names, test = .presence names → names.Pairwise (· < ·)) :
    Members.Sorted test.fields := by
  rw [Members.Sorted]
  cases test with
  | terms held => exact List.pairwise_map.2 held.sorted
  | phrase held => exact List.pairwise_map.2 held.sorted
  | range held => exact List.pairwise_map.2 held.sorted
  | start held => exact List.pairwise_map.2 held.sorted
  | pattern held => exact List.pairwise_map.2 held.sorted
  | presence names => exact List.pairwise_map.2 (increasing names rfl)

theorem canonical_of_mem_fields {test : Leaf} (canonical : test.BoundsCanonical)
    {field : String × List Json} (listed : field ∈ test.fields) {value : Json}
    (given : value ∈ field.2) : value.Canonical := by
  cases test with
  | terms held =>
      rcases List.mem_map.1 listed with ⟨entry, _, rfl⟩
      rcases List.mem_map.1 given with ⟨scalar, _, rfl⟩
      cases scalar <;> trivial
  | phrase held =>
      rcases List.mem_map.1 listed with ⟨entry, _, rfl⟩
      rcases List.mem_map.1 given with ⟨phrase, _, rfl⟩
      trivial
  | range held =>
      rcases List.mem_map.1 listed with ⟨entry, among, rfl⟩
      exact canonical_of_mem_values (canonical entry among) given
  | start held | pattern held =>
      rcases List.mem_map.1 listed with ⟨entry, _, rfl⟩
      rw [List.mem_singleton.1 given]
      trivial
  | presence names =>
      rcases List.mem_map.1 listed with ⟨name, _, rfl⟩
      cases given

end Leaf

namespace Condition

open Draft (Part)

/-- The ends of ranges are canonical values. -/
inductive BoundsCanonical : Condition → Prop
  | leaf {logic : Logic} {test : Leaf} (canonical : test.BoundsCanonical) :
      BoundsCanonical (.leaf logic test)
  | group {logic : Logic} {children : List Condition}
      (each : ∀ child ∈ children, BoundsCanonical child) : BoundsCanonical (.group logic children)

mutual

/-- A document that writes a condition. -/
def document : Condition → Json
  | .leaf logic test => .obj [
      ("fieldValues", .obj (test.fields.map fun field => (field.1, .arr field.2))),
      ("logic", .str logic.name), ("nodeType", .str test.kind.name)]
  | .group logic children => .obj [("children", .arr (documents children)),
      ("logic", .str logic.name)]

def documents : List Condition → List Json
  | [] => []
  | condition :: rest => condition.document :: documents rest

end

def partsOf (values logic kind children : Option Json) : Part → Option Json
  | .values => values
  | .logic => logic
  | .kind => kind
  | .children => children

theorem documents_eq_map (conditions : List Condition) :
    documents conditions = conditions.map document := by
  induction conditions with
  | nil => rfl
  | cons condition rest ih => rw [documents, ih, List.map_cons]

theorem canonical_fields {fields : List (String × List Json)} (sorted : Members.Sorted fields)
    (canonical : ∀ field ∈ fields, ∀ value ∈ field.2, value.Canonical) :
    (Json.obj (fields.map fun field => (field.1, .arr field.2))).Canonical := by
  refine Json.canonical_obj.2 ⟨List.pairwise_map.2 sorted, fun member listed => ?_⟩
  rcases List.mem_map.1 listed with ⟨field, among, rfl⟩
  exact Json.canonical_arr.2 (canonical field among)

/-- What an object gives that is laid out as the document of a leaf. -/
theorem gives_leaf (fields logic kind : Json) :
    Gives (.obj [("fieldValues", fields), ("logic", logic), ("nodeType", kind)])
      (partsOf (some fields) (some logic) (some kind) none) := by
  refine .object fun part => ?_
  cases part <;> simp [given, Part.names, partsOf]

/-- What an object gives that is laid out as the document of a group. -/
theorem gives_group (children logic : Json) :
    Gives (.obj [("children", children), ("logic", logic)])
      (partsOf none (some logic) none (some children)) := by
  refine .object fun part => ?_
  cases part <;> simp [given, Part.names, partsOf]

theorem canonical_leaf {fields : Json} (canonical : fields.Canonical) (logic kind : String) :
    (Json.obj [("fieldValues", fields), ("logic", .str logic),
      ("nodeType", .str kind)]).Canonical := by
  refine Json.canonical_obj.2 ⟨Members.sorted_iff_pairwise_names.2 ?_, ?_⟩
  · exact (by decide : ["fieldValues", "logic", "nodeType"].Pairwise (· < ·))
  · simp only [List.forall_mem_cons, List.not_mem_nil, false_imp_iff, implies_true, and_true]
    exact ⟨canonical, trivial, trivial⟩

theorem canonical_group {children : Json} (canonical : children.Canonical) (logic : String) :
    (Json.obj [("children", children), ("logic", .str logic)]).Canonical := by
  refine Json.canonical_obj.2 ⟨Members.sorted_iff_pairwise_names.2 ?_, ?_⟩
  · exact (by decide : ["children", "logic"].Pairwise (· < ·))
  · simp only [List.forall_mem_cons, List.not_mem_nil, false_imp_iff, implies_true, and_true]
    exact ⟨canonical, trivial⟩

theorem document_canonical {condition : Condition} (writable : condition.Writable)
    (bounds : condition.BoundsCanonical) : condition.document.Canonical := by
  induction writable with
  | @leaf logic test increasing =>
      cases bounds with
      | leaf canonical =>
          have fields := canonical_fields (Leaf.sorted_fields increasing)
            fun _ listed _ => Leaf.canonical_of_mem_fields canonical listed
          exact canonical_leaf fields logic.name test.kind.name
  | @group logic children inhabited _ ih =>
      cases bounds with
      | group each =>
          have inside : (Json.arr (documents children)).Canonical := by
            rw [documents_eq_map, Json.canonical_arr, List.forall_mem_map]
            exact fun child listed => ih child listed (each child listed)
          exact canonical_group inside logic.name

theorem respells_refl (name : List Char) : Respells name name := by
  induction name with
  | nil => exact .done
  | cons letter rest ih => exact .kept letter ih

theorem writes_document {condition : Condition} (writable : condition.Writable) :
    Writes condition.document condition := by
  induction writable with
  | @leaf logic test increasing =>
      have gives : Gives (document (.leaf logic test)) (partsOf
          (some (.obj (test.fields.map fun field => (field.1, .arr field.2))))
          (some (.str logic.name)) (some (.str test.kind.name)) none) := gives_leaf _ _ _
      exact .leaf gives rfl (.name (respells_refl _)) rfl (.name (respells_refl _))
        (.object test.fields) test.holds_fields .absent
  | @group logic children inhabited _ ih =>
      have gives : Gives (document (.group logic children)) (partsOf none
          (some (.str logic.name)) none (some (.arr (documents children)))) := gives_group _ _
      refine .group gives rfl (.name (respells_refl _)) .absent .absent rfl ?_
      rw [documents_eq_map, List.forall₂_map_left_iff, List.forall₂_same]
      exact ih

/-- Whatever document writes a condition, it is decoded to that condition, and
there is such a document. -/
theorem every_writing_decodes {condition : Condition} (writable : condition.Writable) :
    (condition.BoundsCanonical →
      condition.document.Canonical ∧ Writes condition.document condition) ∧
    ∀ value : Json, value.Canonical → Writes value condition →
      Decode.fromValue Condition.decode value = .ok condition := by
  constructor
  · intro bounds
    exact ⟨document_canonical writable bounds, writes_document writable⟩
  · intro value canonical writes
    exact (decode_eq_ok_iff_describes canonical).2 (describes_of_writes writable writes)

/-- A range inside a group, under other names, with a number as digits, a name
in small letters, a second value that is not looked at and an upper end that
is null. -/
theorem every_writing_decodes_range :
    let ends : Bounds := ⟨some ⟨.str "a", nofun⟩, none, true, false⟩
    let condition := group .must
      [leaf .mustNot (.range ⟨[("r", .bounds ends)], List.pairwise_singleton _ _⟩)]
    let inner := Json.obj [("nodeType", .str "3"),
      ("pair", .obj [("r", .arr [.obj [("from", .str "a"), ("to", .null)], .bool true])]),
      ("queryLogic", .str "mustnot")]
    let outer := Json.obj [("children", .arr [inner]), ("queryLogic", .str "MUST")]
    condition.Writable ∧ outer.Canonical ∧ Writes outer condition ∧
      Decode.fromValue Condition.decode outer = .ok condition := by
  intro ends condition inner outer
  have writable : condition.Writable :=
    .group nofun (List.forall_mem_singleton.2 (.leaf nofun))
  have canonical : outer.Canonical := by
    simp only [outer, inner, Json.Canonical, Json.CanonicalMembers, Json.CanonicalItems,
      Members.Sorted]
    decide
  have name : Respells "MUST_NOT".toList "mustnot".toList :=
    .lowered 'M' <| .lowered 'U' <| .lowered 'S' <| .lowered 'T' <| .removed <|
      .lowered 'N' <| .lowered 'O' <| .lowered 'T' .done
  have three : Spells LeafKind.range.number LeafKind.range.name (.str "3") :=
    (by decide : toString LeafKind.range.number = "3") ▸ .digits
  have innerWrites : Writes inner
      (leaf .mustNot (.range ⟨[("r", .bounds ends)], List.pairwise_singleton _ _⟩)) := by
    have gives : Gives inner (partsOf
        (some (.obj [("r", .arr [.obj [("from", .str "a"), ("to", .null)], .bool true])]))
        (some (.str "mustnot")) (some (.str "3")) none) :=
      .object fun part => by cases part <;> rfl
    refine .leaf gives rfl (.name name) rfl three
      (.object [("r", [.obj [("from", .str "a"), ("to", .null)], .bool true])]) ?_ .absent
    refine .cons ⟨rfl, .bounds [.bool true] ?_⟩ .nil
    exact {
      lower := .given ⟨.str "a", nofun⟩
      upper := .null
      includeLower := .absent
      includeUpper := .absent }
  have outerWrites : Writes outer condition := by
    have gives : Gives outer (partsOf none (some (.str "MUST")) none (some (.arr [inner]))) :=
      .object fun part => by cases part <;> rfl
    exact .group gives rfl (.name (respells_refl _)) .absent .absent rfl (.cons innerWrites .nil)
  exact ⟨writable, canonical, outerWrites,
    (every_writing_decodes writable).2 outer canonical outerWrites⟩

end Condition

end CriteriaSearch
