import CriteriaSearch.Condition.Basic
import CriteriaSearch.Proofs.Json.Values
import Mathlib.Data.Set.List

namespace CriteriaSearch

/-!
# The values of a leaf and what it keeps of them

The values of a field are given to a leaf as a list of plain JSON values, and
each kind of leaf keeps them in a form of its own.  Exact values and phrases
are kept as they are.  A range looks at the first value only, and there at
four members of it; a start or a pattern keeps the text of the first value; a
leaf that asks for presence keeps the name of the field alone.

What is kept is described by a relation between the given values and the
entry, for each kind, without reference to how a leaf is filled.  A second
description tells which values a kind takes at all.  Filling an empty leaf
with the values of several fields, whose names increase, then succeeds exactly
where the kind takes all of them and gives exactly the leaf that holds them.
-/

/-- Strings, numbers and truth values. -/
def Json.IsScalar : Json → Prop
  | .str _ | .num _ | .bool _ => True
  | .null | .arr _ | .obj _ => False

/-- A flag and the value that states it, where nothing and null state the
default. -/
inductive FlagStated (default : Bool) : Option Json → Bool → Prop
  | absent : FlagStated default none default
  | null : FlagStated default (some .null) default
  | given (flag : Bool) : FlagStated default (some (.bool flag)) flag

/-- An end of a range and the value that states it. -/
inductive EndStated : Option Json → Option Bound → Prop
  | absent : EndStated none none
  | null : EndStated (some .null) none
  | given (bound : Bound) : EndStated (some bound.value) (some bound)

/-- Bounds and the members that state them.  Other members do not matter. -/
structure Bounds.StatedBy (members : List (String × Json)) (bounds : Bounds) : Prop where
  lower : EndStated (Members.find? "from" members) bounds.lower
  upper : EndStated (Members.find? "to" members) bounds.upper
  includeLower :
    FlagStated true (Members.find? "include_lower" members) bounds.includeLower
  includeUpper :
    FlagStated false (Members.find? "include_upper" members) bounds.includeUpper

/-- A range entry and the values that state it. -/
inductive RangeStated : List Json → RangeEntry → Prop
  | unset : RangeStated [] .unset
  | ignored {first : Json} (rest : List Json) (other : ∀ members, first ≠ .obj members) :
      RangeStated (first :: rest) .ignored
  | bounds {members : List (String × Json)} {bounds : Bounds} (rest : List Json)
      (stated : bounds.StatedBy members) : RangeStated (.obj members :: rest) (.bounds bounds)

/-- A text and the values that state it. -/
inductive TextStated : List Json → String → Prop
  | absent : TextStated [] ""
  | null (rest : List Json) : TextStated (.null :: rest) ""
  | string (text : String) (rest : List Json) : TextStated (.str text :: rest) text
  | number (n : Number) (rest : List Json) : TextStated (.num n :: rest) (String.ofList n.text)
  | truth (b : Bool) (rest : List Json) :
      TextStated (.bool b :: rest) (if b then "true" else "false")

/-- Every field is held under its name and in the form that its values state. -/
def Entrywise {α : Type} (stated : List Json → α → Prop) :
    List (String × List Json) → List (String × α) → Prop :=
  List.Forall₂ fun given entry => given.1 = entry.1 ∧ stated given.2 entry.2

/-- The leaf holds these values of these fields and nothing else. -/
def Leaf.Holds (fields : List (String × List Json)) : Leaf → Prop
  | .terms held => Entrywise (fun values scalars => values = scalars.map Scalar.toJson) fields
      held.entries
  | .phrase held => Entrywise (fun values phrases => values = phrases.map .str) fields held.entries
  | .range held => Entrywise RangeStated fields held.entries
  | .start held | .pattern held => Entrywise TextStated fields held.entries
  | .presence names => fields.map Prod.fst = names

/-- The values that a kind of leaf takes for a field. -/
def LeafKind.Takes (values : List Json) : LeafKind → Prop
  | .terms => ∀ value ∈ values, value.IsScalar
  | .phrase => ∀ value ∈ values, ∃ text, value = .str text
  | .range => ∀ members, values.head? = some (.obj members) →
      ∀ key ∈ ["include_lower", "include_upper"], ∀ flag, Members.find? key members = some flag →
        flag = .null ∨ ∃ truth, flag = .bool truth
  | .start | .pattern => ∀ first, values.head? = some first → first = .null ∨ first.IsScalar
  | .presence => True

/-! ## The readers of values -/

namespace Scalar

theorem ofJson?_eq_some {value : Json} {scalar : Scalar} :
    ofJson? value = some scalar ↔ value = scalar.toJson := by
  cases value <;> cases scalar <;> simp [ofJson?, toJson]

theorem isScalar_iff {value : Json} :
    value.IsScalar ↔ ∃ scalar : Scalar, value = scalar.toJson := by
  constructor
  · intro scalar
    cases value with
    | str text => exact ⟨.text text, rfl⟩
    | num n => exact ⟨.number n, rfl⟩
    | bool b => exact ⟨.truth b, rfl⟩
    | null | arr items | obj members => exact scalar.elim
  · rintro ⟨scalar, rfl⟩
    cases scalar <;> trivial

end Scalar

namespace Leaf

theorem scalars_eq_ok {field : String} {values : List Json} {held : List Scalar} :
    scalars field values = .ok held ↔ values = held.map Scalar.toJson := by
  induction values generalizing held with
  | nil =>
      rw [scalars, Except.ok.injEq]
      exact ⟨fun same => same ▸ rfl, fun same => (List.map_eq_nil_iff.1 same.symm).symm⟩
  | cons value rest ih =>
      rw [scalars, eq_comm (a := value :: rest), List.map_eq_cons_iff]
      cases read : Scalar.ofJson? value with
      | none =>
          refine ⟨nofun, ?_⟩
          rintro ⟨scalar, others, -, same, -⟩
          rw [Scalar.ofJson?_eq_some.2 same.symm] at read
          cases read
      | some first =>
          rw [Scalar.ofJson?_eq_some] at read
          rw [Decode.map_eq_ok]
          constructor
          · rintro ⟨others, following, rfl⟩
            exact ⟨first, others, rfl, read.symm, (ih.1 following).symm⟩
          · rintro ⟨scalar, others, rfl, same, following⟩
            have alike : first = scalar := by
              rw [← Option.some.injEq, ← Scalar.ofJson?_eq_some.2 read,
                Scalar.ofJson?_eq_some.2 same.symm]
            exact ⟨others, ih.2 following.symm, alike ▸ rfl⟩

theorem phrases_eq_ok {field : String} {values : List Json} {held : List String} :
    phrases field values = .ok held ↔ values = held.map .str := by
  induction values generalizing held with
  | nil =>
      rw [phrases, Except.ok.injEq]
      exact ⟨fun same => same ▸ rfl, fun same => (List.map_eq_nil_iff.1 same.symm).symm⟩
  | cons value rest ih =>
      rw [eq_comm (a := value :: rest), List.map_eq_cons_iff]
      cases value with
      | str text =>
          rw [phrases, Decode.map_eq_ok]
          constructor
          · rintro ⟨others, following, rfl⟩
            exact ⟨text, others, rfl, rfl, (ih.1 following).symm⟩
          · rintro ⟨phrase, others, rfl, same, following⟩
            exact ⟨others, ih.2 following.symm, Json.str.inj same ▸ rfl⟩
      | null | bool truth | num number | arr items | obj members =>
          refine ⟨nofun, ?_⟩
          rintro ⟨phrase, others, -, impossible, -⟩
          cases impossible

theorem flag_eq_ok {field key : String} {members : List (String × Json)} {default flag : Bool} :
    Leaf.flag field members key default = .ok flag ↔
      FlagStated default (Members.find? key members) flag := by
  rw [Leaf.flag]
  rcases Members.find? key members with _ | _ | truth | _ | _ | _ | _
  · exact ⟨fun same => Except.ok.inj same ▸ .absent, fun | .absent => rfl⟩
  · exact ⟨fun same => Except.ok.inj same ▸ .null, fun | .null => rfl⟩
  · exact ⟨fun same => Except.ok.inj same ▸ .given truth, fun | .given _ => rfl⟩
  all_goals exact ⟨nofun, nofun⟩

theorem bound_eq_iff {given : Option Json} {bound : Option Bound} :
    given.bind Bound.ofJson? = bound ↔ EndStated given bound := by
  rcases given with _ | value
  · exact ⟨fun same => same ▸ .absent, fun | .absent => rfl⟩
  · rw [Option.bind_some, Bound.ofJson?]
    constructor
    · rintro rfl
      split
      · rename_i null
        exact null ▸ .null
      · rename_i present
        exact .given ⟨value, present⟩
    · intro stated
      cases stated with
      | null => rfl
      | given bound => rw [dif_neg bound.value_ne_null]

theorem boundsOf_eq_ok {field : String} {members : List (String × Json)} {bounds : Bounds} :
    boundsOf field members = .ok bounds ↔ bounds.StatedBy members := by
  rw [boundsOf, Decode.bind_eq_ok]
  constructor
  · rintro ⟨includeLower, lowerRead, continued⟩
    rcases Decode.bind_eq_ok.1 continued with ⟨includeUpper, upperRead, finished⟩
    cases finished
    exact {
      lower := bound_eq_iff.1 rfl
      upper := bound_eq_iff.1 rfl
      includeLower := flag_eq_ok.1 lowerRead
      includeUpper := flag_eq_ok.1 upperRead }
  · intro stated
    refine ⟨bounds.includeLower, flag_eq_ok.2 stated.includeLower, Decode.bind_eq_ok.2
      ⟨bounds.includeUpper, flag_eq_ok.2 stated.includeUpper, ?_⟩⟩
    rw [bound_eq_iff.2 stated.lower, bound_eq_iff.2 stated.upper]
    rfl

theorem rangeEntry_eq_ok {field : String} {values : List Json} {entry : RangeEntry} :
    rangeEntry field values = .ok entry ↔ RangeStated values entry := by
  cases values with
  | nil => exact ⟨fun same => Except.ok.inj same ▸ .unset, fun | .unset => rfl⟩
  | cons first rest =>
      cases first with
      | obj members =>
          rw [rangeEntry, Decode.map_eq_ok]
          constructor
          · rintro ⟨bounds, read, rfl⟩
            exact .bounds rest (boundsOf_eq_ok.1 read)
          · intro stated
            cases stated with
            | ignored rest other => exact absurd rfl (other members)
            | bounds rest stated => exact ⟨_, boundsOf_eq_ok.2 stated, rfl⟩
      | null | bool truth | num number | str text | arr items =>
          exact ⟨fun same => Except.ok.inj same ▸ .ignored rest nofun, fun | .ignored _ _ => rfl⟩

theorem firstText_eq_ok {field : String} {values : List Json} {text : String} :
    firstText field values = .ok text ↔ TextStated values text := by
  cases values with
  | nil => exact ⟨fun same => Except.ok.inj same ▸ .absent, fun | .absent => rfl⟩
  | cons first rest =>
      cases first with
      | null => exact ⟨fun same => Except.ok.inj same ▸ .null rest, fun | .null _ => rfl⟩
      | str held =>
          exact ⟨fun same => Except.ok.inj same ▸ .string held rest, fun | .string _ _ => rfl⟩
      | num n =>
          exact ⟨fun same => Except.ok.inj same ▸ .number n rest, fun | .number _ _ => rfl⟩
      | bool b =>
          have plain : (Scalar.truth b).plain = if b then "true" else "false" := by
            cases b <;> rfl
          constructor
          · intro same
            rw [← Except.ok.inj same, plain]
            exact .truth b rest
          · intro stated
            cases stated
            exact congrArg Except.ok plain
      | arr items | obj members => exact ⟨nofun, nofun⟩

end Leaf

/-! ## The values that can be kept -/

theorem exists_map_eq_iff {α β : Type} {write : β → α} {values : List α} :
    (∃ held : List β, values = held.map write) ↔
      ∀ value ∈ values, ∃ entry, value = write entry := by
  have range := Set.ext_iff.1 (Set.range_list_map write) values
  simpa only [Set.mem_range, Set.mem_ofPred_eq, eq_comm] using range

theorem exists_flagStated_iff {default : Bool} {given : Option Json} :
    (∃ flag, FlagStated default given flag) ↔
      ∀ value, given = some value → value = .null ∨ ∃ truth, value = .bool truth := by
  constructor
  · rintro ⟨flag, stated⟩ value rfl
    cases stated with
    | null => exact Or.inl rfl
    | given flag => exact Or.inr ⟨flag, rfl⟩
  · intro proper
    cases given with
    | none => exact ⟨default, .absent⟩
    | some value =>
        rcases proper value rfl with rfl | ⟨truth, rfl⟩
        · exact ⟨default, .null⟩
        · exact ⟨truth, .given truth⟩

theorem exists_statedBy_iff {members : List (String × Json)} :
    (∃ bounds : Bounds, bounds.StatedBy members) ↔
      ∀ key ∈ ["include_lower", "include_upper"], ∀ flag, Members.find? key members = some flag →
        flag = .null ∨ ∃ truth, flag = .bool truth := by
  rw [List.forall_mem_cons, List.forall_mem_singleton,
    ← @exists_flagStated_iff true, ← @exists_flagStated_iff false]
  constructor
  · rintro ⟨bounds, stated⟩
    exact ⟨⟨_, stated.includeLower⟩, ⟨_, stated.includeUpper⟩⟩
  · rintro ⟨⟨includeLower, lowerStated⟩, ⟨includeUpper, upperStated⟩⟩
    exact ⟨⟨_, _, includeLower, includeUpper⟩, {
      lower := Leaf.bound_eq_iff.1 rfl
      upper := Leaf.bound_eq_iff.1 rfl
      includeLower := lowerStated
      includeUpper := upperStated }⟩

theorem exists_rangeStated_iff {values : List Json} :
    (∃ entry, RangeStated values entry) ↔ LeafKind.range.Takes values := by
  cases values with
  | nil => exact ⟨fun _ => nofun, fun _ => ⟨.unset, .unset⟩⟩
  | cons first rest =>
      cases first with
      | obj members =>
          have taken : LeafKind.range.Takes (.obj members :: rest) ↔
              ∃ bounds : Bounds, bounds.StatedBy members := by
            rw [exists_statedBy_iff]
            exact ⟨fun takes => takes members rfl, fun proper _ same =>
              Json.obj.inj (Option.some.inj same) ▸ proper⟩
          rw [taken]
          constructor
          · rintro ⟨entry, stated⟩
            cases stated with
            | ignored rest other => exact absurd rfl (other members)
            | bounds rest stated => exact ⟨_, stated⟩
          · rintro ⟨bounds, stated⟩
            exact ⟨.bounds bounds, .bounds rest stated⟩
      | null | bool truth | num number | str text | arr items =>
          exact ⟨fun _ => nofun, fun _ => ⟨.ignored, .ignored rest nofun⟩⟩

theorem exists_textStated_iff {values : List Json} :
    (∃ text, TextStated values text) ↔
      ∀ first, values.head? = some first → first = .null ∨ first.IsScalar := by
  cases values with
  | nil => exact ⟨fun _ => nofun, fun _ => ⟨"", .absent⟩⟩
  | cons first rest =>
      rw [List.head?_cons]
      constructor
      · rintro ⟨text, stated⟩ _ same
        cases same
        cases stated with
        | null => exact Or.inl rfl
        | string | number | truth => exact Or.inr trivial
      · intro proper
        cases first with
        | null => exact ⟨"", .null rest⟩
        | str text => exact ⟨text, .string text rest⟩
        | num n => exact ⟨_, .number n rest⟩
        | bool b => exact ⟨_, .truth b rest⟩
        | arr items | obj members => exact (proper _ rfl).elim nofun False.elim

/-! ## The forms of leaves -/

/-- The leaves of a kind have a form that keeps a table of entries, each of
which is what the values of its field state. -/
structure LeafKind.Keeps {α : Type} (kind : LeafKind) (form : FieldMap α → Leaf)
    (stated : List Json → α → Prop) : Prop where
  empty : Leaf.empty kind = form .empty
  insert_eq_ok : ∀ name values table test, (form table).insert name values = .ok test ↔
    ∃ entry, stated values entry ∧ form (table.insert name entry) = test
  holds_iff : ∀ fields test, test.kind = kind ∧ test.Holds fields ↔
    ∃ table : FieldMap α, Entrywise stated fields table.entries ∧ form table = test
  takes_iff : ∀ values, kind.Takes values ↔ ∃ entry, stated values entry

namespace LeafKind

theorem map_eq_ok_of_read {α : Type} {outcome : Except ConditionFault α} {states : α → Prop}
    {put : α → Leaf} {test : Leaf} (read : ∀ entry, outcome = .ok entry ↔ states entry) :
    outcome.map put = .ok test ↔ ∃ entry, states entry ∧ put entry = test := by
  rw [Decode.map_eq_ok]
  simp only [read]

theorem keeps_terms :
    terms.Keeps .terms fun values scalars => values = scalars.map Scalar.toJson where
  empty := rfl
  insert_eq_ok _ _ _ _ := map_eq_ok_of_read fun _ => Leaf.scalars_eq_ok
  holds_iff _ test := by cases test <;> simp [Leaf.kind, Leaf.Holds]
  takes_iff values := by
    rw [exists_map_eq_iff]
    simp only [Takes, Scalar.isScalar_iff]

theorem keeps_phrase : phrase.Keeps .phrase fun values phrases => values = phrases.map .str where
  empty := rfl
  insert_eq_ok _ _ _ _ := map_eq_ok_of_read fun _ => Leaf.phrases_eq_ok
  holds_iff _ test := by cases test <;> simp [Leaf.kind, Leaf.Holds]
  takes_iff values := exists_map_eq_iff.symm

theorem keeps_range : range.Keeps .range RangeStated where
  empty := rfl
  insert_eq_ok _ _ _ _ := map_eq_ok_of_read fun _ => Leaf.rangeEntry_eq_ok
  holds_iff _ test := by cases test <;> simp [Leaf.kind, Leaf.Holds]
  takes_iff values := exists_rangeStated_iff.symm

theorem keeps_start : start.Keeps .start TextStated where
  empty := rfl
  insert_eq_ok _ _ _ _ := map_eq_ok_of_read fun _ => Leaf.firstText_eq_ok
  holds_iff _ test := by cases test <;> simp [Leaf.kind, Leaf.Holds]
  takes_iff values := exists_textStated_iff.symm

theorem keeps_pattern : pattern.Keeps .pattern TextStated where
  empty := rfl
  insert_eq_ok _ _ _ _ := map_eq_ok_of_read fun _ => Leaf.firstText_eq_ok
  holds_iff _ test := by cases test <;> simp [Leaf.kind, Leaf.Holds]
  takes_iff values := exists_textStated_iff.symm

end LeafKind

/-! ## Filling a leaf -/

theorem entries_foldl_insert {α : Type} (held : List (String × α)) (table : FieldMap α) :
    (held.foldl (fun table entry => table.insert entry.1 entry.2) table).entries =
      held.foldl (fun entries entry => Members.insert entry.1 entry.2 entries) table.entries := by
  induction held generalizing table with
  | nil => rfl
  | cons head rest ih => exact ih (table.insert head.1 head.2)

/-- The names are those of the fields, so they increase as well. -/
theorem sorted_of_entrywise {α : Type} {stated : List Json → α → Prop}
    {fields : List (String × List Json)} {held : List (String × α)}
    (sorted : Members.Sorted fields) (entrywise : Entrywise stated fields held) :
    Members.Sorted held := by
  have names : fields.map Prod.fst = held.map Prod.fst := by
    rw [← List.forall₂_eq_eq_eq, List.forall₂_map_left_iff, List.forall₂_map_right_iff]
    exact entrywise.imp fun given entry alike => alike.1
  rw [Members.sorted_iff_pairwise_names] at sorted ⊢
  exact names ▸ sorted

/-- Fields with increasing names can be held where each of them can. -/
theorem exists_entrywise_iff {α : Type} {stated : List Json → α → Prop}
    {fields : List (String × List Json)} (sorted : Members.Sorted fields) :
    (∃ table : FieldMap α, Entrywise stated fields table.entries) ↔
      ∀ field ∈ fields, ∃ entry, stated field.2 entry := by
  have held : (∃ held, Entrywise stated fields held) ↔
      ∀ field ∈ fields, ∃ entry, stated field.2 entry := by
    refine exists_forall₂_iff.trans (forall₂_congr fun field _ => ?_)
    constructor
    · rintro ⟨entry, -, states⟩
      exact ⟨entry.2, states⟩
    · rintro ⟨entry, states⟩
      exact ⟨(field.1, entry), rfl, states⟩
  rw [← held]
  constructor
  · rintro ⟨table, entrywise⟩
    exact ⟨table.entries, entrywise⟩
  · rintro ⟨entries, entrywise⟩
    exact ⟨⟨entries, sorted_of_entrywise sorted entrywise⟩, entrywise⟩

namespace LeafKind.Keeps

variable {α : Type} {kind : LeafKind} {form : FieldMap α → Leaf} {stated : List Json → α → Prop}
  {fields : List (String × List Json)}

/-- A table is filled field by field. -/
theorem insertAll_eq_ok (keeps : kind.Keeps form stated) {table : FieldMap α} {test : Leaf} :
    Leaf.insertAll fields (form table) = .ok test ↔
      ∃ held, Entrywise stated fields held ∧
        form (held.foldl (fun table entry => table.insert entry.1 entry.2) table) = test := by
  induction fields generalizing table with
  | nil =>
      rw [Leaf.insertAll, Except.ok.injEq]
      exact ⟨fun same => ⟨[], .nil, same⟩, fun | ⟨[], .nil, same⟩ => same⟩
  | cons field rest ih =>
      rw [Leaf.insertAll, Decode.bind_eq_ok]
      constructor
      · rintro ⟨between, inserted, continued⟩
        rcases (keeps.insert_eq_ok _ _ _ _).1 inserted with ⟨entry, first, rfl⟩
        rcases ih.1 continued with ⟨others, following, same⟩
        exact ⟨(field.1, entry) :: others, .cons ⟨rfl, first⟩ following, same⟩
      · rintro ⟨_ | ⟨⟨name, entry⟩, others⟩, entrywise, same⟩
        · cases entrywise
        · rcases List.forall₂_cons.1 entrywise with ⟨⟨rfl, first⟩, following⟩
          exact ⟨_, (keeps.insert_eq_ok _ _ _ _).2 ⟨entry, first, rfl⟩,
            ih.2 ⟨others, following, same⟩⟩

theorem insertAll_empty_eq_ok (keeps : kind.Keeps form stated) (sorted : Members.Sorted fields)
    {test : Leaf} :
    Leaf.insertAll fields (Leaf.empty kind) = .ok test ↔
      test.kind = kind ∧ test.Holds fields := by
  rw [keeps.empty, keeps.insertAll_eq_ok, keeps.holds_iff]
  constructor
  · rintro ⟨held, entrywise, same⟩
    have kept := Members.ofList_of_sorted (sorted_of_entrywise sorted entrywise)
    refine ⟨_, ?_, same⟩
    rw [entries_foldl_insert]
    exact Eq.subst (motive := Entrywise stated fields) kept.symm entrywise
  · rintro ⟨table, entrywise, same⟩
    have whole : table.entries.foldl (fun table entry => table.insert entry.1 entry.2) .empty =
        table := by
      refine FieldMap.ext ?_
      rw [entries_foldl_insert]
      exact Members.ofList_of_sorted table.sorted
    exact ⟨table.entries, entrywise, whole.symm ▸ same⟩

theorem exists_holds_iff (keeps : kind.Keeps form stated) (sorted : Members.Sorted fields) :
    (∃ test : Leaf, test.kind = kind ∧ test.Holds fields) ↔
      ∀ field ∈ fields, kind.Takes field.2 := by
  simp only [keeps.holds_iff, keeps.takes_iff]
  rw [← exists_entrywise_iff sorted]
  constructor
  · rintro ⟨_, table, entrywise, -⟩
    exact ⟨table, entrywise⟩
  · rintro ⟨table, entrywise⟩
    exact ⟨form table, table, entrywise, rfl⟩

end LeafKind.Keeps

namespace Leaf

variable {fields : List (String × List Json)} {kind : LeafKind}

theorem insertAll_presence (fields : List (String × List Json)) (names : List String) :
    insertAll fields (.presence names) = .ok (.presence (names ++ fields.map Prod.fst)) := by
  induction fields generalizing names with
  | nil => rw [insertAll, List.map_nil, List.append_nil]
  | cons field rest ih =>
      rw [insertAll]
      refine (ih (names ++ [field.1])).trans ?_
      rw [List.append_assoc, List.singleton_append, List.map_cons]

/-- Filling an empty leaf gives the leaf of that kind that holds the values. -/
theorem insertAll_empty_eq_ok (sorted : Members.Sorted fields) {test : Leaf} :
    insertAll fields (empty kind) = .ok test ↔ test.kind = kind ∧ test.Holds fields := by
  cases kind with
  | terms => exact LeafKind.keeps_terms.insertAll_empty_eq_ok sorted
  | phrase => exact LeafKind.keeps_phrase.insertAll_empty_eq_ok sorted
  | range => exact LeafKind.keeps_range.insertAll_empty_eq_ok sorted
  | start => exact LeafKind.keeps_start.insertAll_empty_eq_ok sorted
  | pattern => exact LeafKind.keeps_pattern.insertAll_empty_eq_ok sorted
  | presence =>
      rw [empty, insertAll_presence, List.nil_append, Except.ok.injEq]
      cases test <;> simp [Leaf.kind, Holds]

/-- A leaf of a kind can hold the values of all fields exactly where the kind
takes them. -/
theorem exists_holds_iff (sorted : Members.Sorted fields) :
    (∃ test : Leaf, test.kind = kind ∧ test.Holds fields) ↔
      ∀ field ∈ fields, kind.Takes field.2 := by
  cases kind with
  | terms => exact LeafKind.keeps_terms.exists_holds_iff sorted
  | phrase => exact LeafKind.keeps_phrase.exists_holds_iff sorted
  | range => exact LeafKind.keeps_range.exists_holds_iff sorted
  | start => exact LeafKind.keeps_start.exists_holds_iff sorted
  | pattern => exact LeafKind.keeps_pattern.exists_holds_iff sorted
  | presence => exact ⟨fun _ _ _ => trivial, fun _ => ⟨.presence _, rfl, rfl⟩⟩

end Leaf

end CriteriaSearch
