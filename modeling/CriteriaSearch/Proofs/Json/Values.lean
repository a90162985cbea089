import CriteriaSearch.Json.Decoding
import CriteriaSearch.Proofs.Json.Order
import Mathlib.Data.List.Forall2

namespace CriteriaSearch

/-!
# Decoding a value that has been read before

The reading of a value is whole: every container is closed, and every name and
every scalar makes sense.  The decoder of plain JSON therefore gives back a
canonical value as it is, unless it comes from a text and has more containers
inside one another than a text may open.  Decoders of lists and of tables fail
only where the value has another shape or where one of its parts is refused.
-/

namespace Json

mutual

/-- How many containers of the value stand inside one another. -/
def depth : Json → Nat
  | .null | .bool _ | .num _ | .str _ => 0
  | .arr items => depthItems items + 1
  | .obj members => depthMembers members + 1

def depthItems : List Json → Nat
  | [] => 0
  | item :: rest => max item.depth (depthItems rest)

def depthMembers : List (String × Json) → Nat
  | [] => 0
  | (_, value) :: rest => max value.depth (depthMembers rest)

end

end Json

namespace Origin

/-- So many containers may be opened inside one another. -/
def Admits : Origin → Nat → Prop
  | .text room, depth => depth ≤ room
  | .value, _ => True

theorem Admits.enter {ε : Type} {o : Origin} {depth : Nat} (admits : o.Admits (depth + 1)) :
    ∃ inner, o.enter = (.ok inner : Except (DecodeError ε) Origin) ∧ inner.Admits depth := by
  cases o with
  | value => exact ⟨.value, rfl, trivial⟩
  | text room =>
      rcases Nat.exists_eq_add_of_lt admits with ⟨more, rfl⟩
      exact ⟨.text (depth + more), rfl, Nat.le_add_right depth more⟩

theorem admits_max {o : Origin} {first second : Nat} :
    o.Admits (max first second) ↔ o.Admits first ∧ o.Admits second := by
  cases o with
  | value => exact ⟨fun _ => ⟨trivial, trivial⟩, fun _ => trivial⟩
  | text room => exact Nat.max_le

end Origin

namespace Reading

variable {ε : Type}

theorem ofItems_eq_map (items : List Json) : ofItems items = items.map ofJson := by
  induction items with
  | nil => rfl
  | cons item rest ih => rw [ofItems, ih, List.map_cons]

mutual

theorem skippable_ofJson (value : Json) : (ofJson value).skippable = true := by
  cases value with
  | null => rfl
  | bool truth => rfl
  | num number => rfl
  | str text => rfl
  | arr items =>
      rw [ofJson, skippable, skippable_ofItems items]
      rfl
  | obj members =>
      rw [ofJson, skippable, skippable_ofMembers members]
      rfl

theorem skippable_ofItems (items : List Json) : skippableItems (ofItems items) = true := by
  cases items with
  | nil => rfl
  | cons item rest =>
      rw [ofItems, skippableItems, skippable_ofJson item, skippable_ofItems rest]
      rfl

theorem skippable_ofMembers (members : List (String × Json)) :
    skippableMembers (ofMembers members) = true := by
  cases members with
  | nil => rfl
  | cons member rest =>
      rw [ofMembers, skippableMembers, skippable_ofJson member.2, skippable_ofMembers rest]
      rfl

end

/-- A part of a value that is not used never stands in the way. -/
theorem skip_ofJson (value : Json) :
    (ofJson value).skip = (.ok () : Except (DecodeError ε) Unit) := by
  rw [skip, if_pos (skippable_ofJson value)]

end Reading

/-- Relations that agree on the elements of the first list relate it to the
same lists. -/
theorem forall₂_congr_left {α β : Type} {first second : α → β → Prop} {items : List α}
    {values : List β} (agree : ∀ item ∈ items, ∀ value, first item value ↔ second item value) :
    List.Forall₂ first items values ↔ List.Forall₂ second items values := by
  induction items generalizing values with
  | nil => rw [List.forall₂_nil_left_iff, List.forall₂_nil_left_iff]
  | cons item rest ih =>
      have later : ∀ other ∈ rest, ∀ value, first other value ↔ second other value :=
        fun other listed => agree other (List.mem_cons_of_mem item listed)
      cases values with
      | nil => rw [List.forall₂_nil_right_iff, List.forall₂_nil_right_iff]
      | cons value others =>
          rw [List.forall₂_cons, List.forall₂_cons, agree item List.mem_cons_self, ih later]

/-- A list is related to some list where each of its elements is related to
something. -/
theorem exists_forall₂_iff {α β : Type} {relation : α → β → Prop} {items : List α} :
    (∃ values, List.Forall₂ relation items values) ↔
      ∀ item ∈ items, ∃ value, relation item value := by
  induction items with
  | nil => exact ⟨fun _ => nofun, fun _ => ⟨[], .nil⟩⟩
  | cons item rest ih =>
      rw [List.forall_mem_cons, ← ih]
      constructor
      · rintro ⟨_ | ⟨value, others⟩, related⟩
        · cases related
        · rcases List.forall₂_cons.1 related with ⟨first, following⟩
          exact ⟨⟨value, first⟩, ⟨others, following⟩⟩
      · rintro ⟨⟨value, first⟩, ⟨others, following⟩⟩
        exact ⟨value :: others, .cons first following⟩

/-- A table of written entries is built from written entries. -/
theorem Members.ofList_eq_map_iff {α β : Type} {write : α → β}
    (injective : ∀ first second, write first = write second → first = second)
    {entries : List (String × β)} (distinct : (names entries).Nodup)
    {table : List (String × α)} :
    ofList entries = table.map (fun entry => (entry.1, write entry.2)) ↔
      ∃ named : List (String × α),
        entries = named.map (fun entry => (entry.1, write entry.2)) ∧ ofList named = table := by
  constructor
  · intro built
    have written : ∀ entry ∈ entries, ∃ source : String × α,
        entry = (source.1, write source.2) := by
      intro entry listed
      rw [← (ofList_perm distinct).mem_iff, built] at listed
      rcases List.mem_map.1 listed with ⟨source, -, same⟩
      exact ⟨source, same.symm⟩
    rcases exists_forall₂_iff.2 written with ⟨named, each⟩
    rw [← List.forall₂_map_right_iff, List.forall₂_eq_eq_eq] at each
    refine ⟨named, each, List.map_injective_iff.2 (fun first second same => ?_)
      ((ofList_map write named).symm.trans (each ▸ built))⟩
    exact Prod.ext (Prod.mk.inj same).1 (injective _ _ (Prod.mk.inj same).2)
  · rintro ⟨named, rfl, rfl⟩
    exact ofList_map write named

namespace Decode

variable {ε α β : Type}

/-- A decoder with two steps succeeds where both of them do. -/
theorem bind_eq_ok {first : Except ε α} {next : α → Except ε β} {result : β} :
    (first >>= next) = .ok result ↔ ∃ between, first = .ok between ∧ next between = .ok result := by
  cases first with
  | error problem => exact ⟨nofun, fun ⟨_, impossible, _⟩ => nomatch impossible⟩
  | ok between =>
      exact ⟨fun done => ⟨between, rfl, done⟩, fun ⟨_, same, done⟩ => Except.ok.inj same ▸ done⟩

theorem map_eq_ok {outcome : Except ε α} {f : α → β} {result : β} :
    outcome.map f = .ok result ↔ ∃ value, outcome = .ok value ∧ f value = result := by
  cases outcome with
  | error problem => exact ⟨nofun, fun ⟨_, impossible, _⟩ => nomatch impossible⟩
  | ok value =>
      exact ⟨fun done => ⟨value, rfl, Except.ok.inj done⟩,
        fun ⟨_, same, done⟩ => Except.ok.inj same ▸ congrArg Except.ok done⟩

mutual

/-- The decoder of plain JSON puts the members of every object in order. -/
theorem json_ofJson_eq_sorted {o : Origin} {value : Json} (admits : o.Admits value.depth) :
    json o (Reading.ofJson value) = (.ok value.sorted : Except (DecodeError ε) Json) := by
  cases value with
  | null => rfl
  | bool truth => rfl
  | num number => rfl
  | str text => rfl
  | arr items =>
      rcases admits.enter with ⟨inner, entered, admits⟩
      rw [Reading.ofJson, json]
      exact bind_eq_ok.2 ⟨inner, entered, bind_eq_ok.2
        ⟨Json.sortedItems items, jsonItems_ofItems admits, rfl⟩⟩
  | obj members =>
      rcases admits.enter with ⟨inner, entered, admits⟩
      rw [Reading.ofJson, json]
      exact bind_eq_ok.2 ⟨inner, entered, bind_eq_ok.2
        ⟨Json.sortedMembers members, jsonMembers_ofMembers admits, rfl⟩⟩

theorem jsonItems_ofItems {o : Origin} {items : List Json}
    (admits : o.Admits (Json.depthItems items)) :
    jsonItems o (Reading.ofItems items) =
      (.ok (Json.sortedItems items) : Except (DecodeError ε) (List Json)) := by
  cases items with
  | nil => rfl
  | cons item rest =>
      have ⟨first, later⟩ := Origin.admits_max.1 admits
      rw [Reading.ofItems, jsonItems, json_ofJson_eq_sorted first, jsonItems_ofItems later]
      rfl

theorem jsonMembers_ofMembers {o : Origin} {members : List (String × Json)}
    (admits : o.Admits (Json.depthMembers members)) :
    jsonMembers o (Reading.ofMembers members) =
      (.ok (Json.sortedMembers members) : Except (DecodeError ε) (List (String × Json))) := by
  cases members with
  | nil => rfl
  | cons member rest =>
      have ⟨first, later⟩ := Origin.admits_max.1 admits
      rw [Reading.ofMembers, jsonMembers, json_ofJson_eq_sorted first,
        jsonMembers_ofMembers later]
      rfl

end

/-- The decoder of plain JSON gives a canonical value back. -/
theorem json_ofJson_of_admits {o : Origin} {value : Json} (admits : o.Admits value.depth)
    (canonical : value.Canonical) :
    json o (Reading.ofJson value) = (.ok value : Except (DecodeError ε) Json) := by
  rw [json_ofJson_eq_sorted admits, Json.sorted_of_canonical canonical]

/-- Nothing limits the depth of a value that has been read before. -/
theorem json_value_ofJson (document : Json) :
    json .value (Reading.ofJson document) =
      (.ok document.sorted : Except (DecodeError ε) Json) :=
  json_ofJson_eq_sorted (o := .value) trivial

theorem json_ofJson {value : Json} (canonical : value.Canonical) :
    json .value (Reading.ofJson value) = (.ok value : Except (DecodeError ε) Json) :=
  json_ofJson_of_admits trivial canonical

/-- Elements are decoded one by one. -/
theorem elements_eq_ok {decode : Decoder ε α} {o : Origin} {readings : List Reading}
    {values : List α} :
    elements decode o readings = .ok values ↔
      List.Forall₂ (fun reading value => decode o reading = .ok value) readings values := by
  induction readings generalizing values with
  | nil =>
      rw [elements, List.forall₂_nil_left_iff, Except.ok.injEq]
      exact eq_comm
  | cons reading rest ih =>
      rw [elements, bind_eq_ok, List.forall₂_cons_left_iff]
      constructor
      · rintro ⟨first, decoded, finished⟩
        rcases bind_eq_ok.1 finished with ⟨others, following, same⟩
        exact ⟨first, others, decoded, ih.1 following, (Except.ok.inj same).symm⟩
      · rintro ⟨first, others, decoded, following, same⟩
        exact ⟨first, decoded, bind_eq_ok.2 ⟨others, ih.2 following, congrArg Except.ok same.symm⟩⟩

/-- Entries are decoded one by one and keep their names. -/
theorem entries_eq_ok {decode : Decoder ε α} {o : Origin} {members : List (String × Json)}
    {named : List (String × α)} :
    entries decode o (Reading.ofMembers members) = .ok named ↔
      List.Forall₂ (fun member entry =>
        member.1 = entry.1 ∧ decode o (Reading.ofJson member.2) = .ok entry.2) members named := by
  induction members generalizing named with
  | nil =>
      rw [Reading.ofMembers, entries, List.forall₂_nil_left_iff, Except.ok.injEq]
      exact eq_comm
  | cons member rest ih =>
      rw [Reading.ofMembers, entries, bind_eq_ok, List.forall₂_cons_left_iff]
      constructor
      · rintro ⟨first, decoded, finished⟩
        rcases bind_eq_ok.1 finished with ⟨others, following, same⟩
        exact ⟨(member.1, first), others, ⟨rfl, decoded⟩, ih.1 following,
          (Except.ok.inj same).symm⟩
      · rintro ⟨⟨name, first⟩, others, ⟨named, decoded⟩, following, same⟩
        refine ⟨first, decoded, bind_eq_ok.2 ⟨others, ih.2 following, ?_⟩⟩
        rw [same, named]
        rfl

/-- A list of plain values is decoded from any array. -/
theorem list_json_eq_ok {document : Json} {items : List Json} :
    list json .value (Reading.ofJson document) =
        (.ok items : Except (DecodeError ε) (List Json)) ↔ document.sorted = .arr items := by
  cases document with
  | null | bool truth | num number | str text | obj members => exact ⟨nofun, nofun⟩
  | arr held =>
      have whole : elements json .value (Reading.ofItems held) =
          (.ok (Json.sortedItems held) : Except (DecodeError ε) (List Json)) := by
        rw [elements_eq_ok, Reading.ofItems_eq_map, Json.sortedItems_eq_map,
          List.forall₂_map_left_iff, List.forall₂_map_right_iff, List.forall₂_same]
        exact fun item _ => json_value_ofJson item
      have decoded : list json .value (Reading.ofJson (.arr held)) =
          (.ok (Json.sortedItems held) : Except (DecodeError ε) (List Json)) :=
        bind_eq_ok.2 ⟨.value, rfl, bind_eq_ok.2 ⟨_, whole, rfl⟩⟩
      rw [decoded, Except.ok.injEq, Json.sorted, Json.arr.injEq]

/-- A table of lists is decoded from the object of their arrays, in whatever
order its members stand. -/
theorem table_list_json_eq_ok_of_distinct {document : Json} (distinct : document.Distinct)
    {table : FieldMap (List Json)} :
    Decode.table (list json) .value (Reading.ofJson document) =
        (.ok table : Except (DecodeError ε) (FieldMap (List Json))) ↔
      document.sorted = .obj (table.entries.map fun entry => (entry.1, .arr entry.2)) := by
  cases document with
  | null | bool truth | num number | str text | arr items => exact ⟨nofun, nofun⟩
  | obj members =>
      have entriesRead (named : List (String × List Json)) :
          entries (list json) .value (Reading.ofMembers members) =
              (.ok named : Except (DecodeError ε) (List (String × List Json))) ↔
            Json.sortedMembers members = named.map fun entry => (entry.1, .arr entry.2) := by
        rw [entries_eq_ok, ← List.forall₂_eq_eq_eq, Json.sortedMembers_eq_map,
          List.forall₂_map_left_iff, List.forall₂_map_right_iff]
        refine forall₂_congr_left fun member _ entry => ?_
        rw [list_json_eq_ok, Prod.ext_iff]
      have unique : (Members.names (Json.sortedMembers members)).Nodup := by
        rw [Json.sortedMembers_eq_map, Members.names, List.map_map]
        exact (Json.distinct_obj.1 distinct).1
      rw [Json.sorted, Json.object, Json.obj.injEq,
        Members.ofList_eq_map_iff (fun _ _ => Json.arr.inj) unique]
      constructor
      · intro decoded
        rcases bind_eq_ok.1 decoded with ⟨o, entered, opened⟩
        cases entered
        rcases bind_eq_ok.1 opened with ⟨named, read, finished⟩
        exact ⟨named, (entriesRead named).1 read,
          congrArg FieldMap.entries (Except.ok.inj finished)⟩
      · rintro ⟨named, held, built⟩
        exact bind_eq_ok.2 ⟨.value, rfl, bind_eq_ok.2 ⟨named, (entriesRead named).2 held,
          congrArg Except.ok (FieldMap.ext built)⟩⟩

/-- A table of lists of plain values is decoded from the object that holds
their arrays and from nothing else. -/
theorem table_list_json_eq_ok {value : Json} (canonical : value.Canonical)
    {table : FieldMap (List Json)} :
    Decode.table (list json) .value (Reading.ofJson value) =
        (.ok table : Except (DecodeError ε) (FieldMap (List Json))) ↔
      value = .obj (table.entries.map fun entry => (entry.1, .arr entry.2)) := by
  rw [table_list_json_eq_ok_of_distinct (Json.distinct_of_canonical canonical),
    Json.sorted_of_canonical canonical]

end Decode

end CriteriaSearch
