import CriteriaSearch.Json.Basic
import Mathlib.Data.List.Nodup
import Mathlib.Data.List.Perm.Basic

namespace CriteriaSearch

/-!
# Members in another order

A document may list the members of its objects in any order, and the value
that it stands for has them in the order of their names.  While no name is
used twice in one object, nothing but the order is lost between the two, so
members that are rearrangements of each other make the same table.
-/

namespace Members

variable {α β : Type}

theorem sorted_iff_pairwise_names {entries : List (String × α)} :
    Sorted entries ↔ (entries.map Prod.fst).Pairwise (· < ·) :=
  List.pairwise_map.symm

theorem insert_last {name : String} {value : α} {entries : List (String × α)}
    (before : ∀ entry ∈ entries, entry.1 < name) :
    insert name value entries = entries ++ [(name, value)] := by
  induction entries with
  | nil => rfl
  | cons head rest ih =>
      have first : head.1 < name := before head List.mem_cons_self
      rw [insert, if_neg (String.lt_asymm first), if_pos first,
        ih fun entry listed => before entry (List.mem_cons_of_mem head listed)]
      rfl

/-- Entries that are sorted already are their own table. -/
theorem ofList_of_sorted {entries : List (String × α)} (sorted : Sorted entries) :
    ofList entries = entries := by
  suffices ∀ table : List (String × α), Sorted (table ++ entries) →
      entries.foldl (fun table entry => insert entry.1 entry.2 table) table =
        table ++ entries from this [] sorted
  clear sorted
  induction entries with
  | nil => exact fun table _ => (List.append_nil table).symm
  | cons head rest ih =>
      intro table ordered
      have before : ∀ entry ∈ table, entry.1 < head.1 := fun entry listed =>
        (List.pairwise_append.1 ordered).2.2 entry listed head List.mem_cons_self
      have ended : table ++ head :: rest = insert head.1 head.2 table ++ rest := by
        rw [insert_last before, List.append_assoc, List.singleton_append]
      rw [List.foldl_cons, ih _ (ended ▸ ordered), ended]

/-- The names of the entries. -/
def names (entries : List (String × α)) : List String :=
  entries.map Prod.fst

theorem names_append (front back : List (String × α)) :
    names (front ++ back) = names front ++ names back :=
  List.map_append

theorem insert_perm {name : String} {value : α} {entries : List (String × α)}
    (fresh : name ∉ names entries) :
    (insert name value entries).Perm ((name, value) :: entries) := by
  induction entries with
  | nil => exact .refl _
  | cons head rest ih =>
      have ⟨different, fresh⟩ := List.ne_and_not_mem_of_not_mem_cons fresh
      unfold insert
      split
      · exact .refl _
      · next notBefore =>
          split
          · exact ((ih fresh).cons head).trans (.swap _ _ _)
          · next notBehind => exact absurd (String.le_antisymm notBehind notBefore) different

/-- A table holds what it is built from, if no name is used twice. -/
theorem ofList_perm {entries : List (String × α)} (distinct : (names entries).Nodup) :
    (ofList entries).Perm entries := by
  suffices ∀ table : List (String × α), (names (entries ++ table)).Nodup →
      (entries.foldl (fun table entry => insert entry.1 entry.2 table) table).Perm
        (entries ++ table) by
    have built := this [] (by rwa [List.append_nil])
    rwa [List.append_nil] at built
  clear distinct
  induction entries with
  | nil => exact fun table _ => .refl table
  | cons head rest ih =>
      intro table distinct
      have fresh : head.1 ∉ names (rest ++ table) := (List.nodup_cons.1 distinct).1
      rw [names_append, List.mem_append, not_or] at fresh
      have apart : head.1 ∉ names table := fresh.2
      have inserted : (rest ++ insert head.1 head.2 table).Perm (head :: (rest ++ table)) :=
        ((insert_perm apart).append_left rest).trans List.perm_middle
      exact (ih _ ((inserted.map Prod.fst).nodup_iff.2 distinct)).trans inserted

/-- There is one order of the entries in which their names increase. -/
theorem Sorted.eq_of_perm {first second : List (String × α)} (sorted : Sorted first)
    (also : Sorted second) (rearranged : first.Perm second) : first = second := by
  apply rearranged.eq_of_pairwise ?_ sorted also
  exact fun one other _ _ before behind => absurd before (String.lt_asymm behind)

/-- Entries in another order make the same table. -/
theorem ofList_eq_of_perm {first second : List (String × α)} (distinct : (names first).Nodup)
    (rearranged : first.Perm second) : ofList first = ofList second := by
  have also : (names second).Nodup := (rearranged.map Prod.fst).nodup_iff.1 distinct
  have alike : (ofList first).Perm (ofList second) :=
    (ofList_perm distinct).trans (rearranged.trans (ofList_perm also).symm)
  exact (sorted_ofList first).eq_of_perm (sorted_ofList second) alike

theorem Sorted.nodup_names {entries : List (String × α)} (sorted : Sorted entries) :
    (names entries).Nodup :=
  (sorted_iff_pairwise_names.1 sorted).imp String.ne_of_lt

theorem mem_of_find?_eq_some {name : String} {value : α} {entries : List (String × α)}
    (found : find? name entries = some value) : (name, value) ∈ entries := by
  induction entries with
  | nil => cases found
  | cons head rest ih =>
      obtain ⟨other, held⟩ := head
      rw [find?] at found
      split at found
      · next same =>
          cases found
          cases same
          exact List.mem_cons_self
      · exact List.mem_cons_of_mem _ (ih found)

/-- What is found is what is there, if no name is used twice. -/
theorem find?_eq_some_iff {name : String} {value : α} {entries : List (String × α)}
    (distinct : (names entries).Nodup) :
    find? name entries = some value ↔ (name, value) ∈ entries := by
  refine ⟨mem_of_find?_eq_some, fun listed => ?_⟩
  induction entries with
  | nil => cases listed
  | cons head rest ih =>
      obtain ⟨other, held⟩ := head
      have ⟨fresh, distinct⟩ := List.nodup_cons.1 distinct
      rcases List.mem_cons.1 listed with same | later
      · cases same
        rw [find?, if_pos rfl]
      · have different : other ≠ name := by
          rintro rfl
          exact fresh (List.mem_map.2 ⟨_, later, rfl⟩)
        rw [find?, if_neg different]
        exact ih distinct later

/-- A table is known from what is found in it. -/
theorem Sorted.eq_of_find?_eq {first second : List (String × α)} (sorted : Sorted first)
    (also : Sorted second) (same : ∀ name, find? name first = find? name second) :
    first = second := by
  apply sorted.eq_of_perm also
  rw [List.perm_ext_iff_of_nodup (List.Nodup.of_map Prod.fst sorted.nodup_names)
    (List.Nodup.of_map Prod.fst also.nodup_names)]
  rintro ⟨name, value⟩
  rw [← find?_eq_some_iff sorted.nodup_names, ← find?_eq_some_iff also.nodup_names, same]

/-- What a table that is built up holds for a name is what was given for it
last. -/
theorem find?_ofList (name : String) (entries : List (String × α)) :
    find? name (ofList entries) = find? name entries.reverse := by
  suffices ∀ table : List (String × α),
      find? name (entries.foldl (fun table entry => insert entry.1 entry.2 table) table) =
        (find? name entries.reverse).or (find? name table) by
    exact (this []).trans (Option.or_none)
  induction entries with
  | nil => exact fun table => rfl
  | cons head rest ih =>
      intro table
      have inserted : find? name (insert head.1 head.2 table) =
          (find? name [head]).or (find? name table) := by
        by_cases same : head.1 = name
        · subst same
          rw [find?_insert_self, find?, if_pos rfl, Option.some_or]
        · rw [find?_insert_of_ne (Ne.symm same), find?, if_neg same, find?, Option.none_or]
      rw [List.foldl_cons, ih, inserted, List.reverse_cons, find?_append, Option.or_assoc]

theorem insert_map (write : α → β) (name : String) (value : α) (entries : List (String × α)) :
    insert name (write value) (entries.map fun entry => (entry.1, write entry.2)) =
      (insert name value entries).map fun entry => (entry.1, write entry.2) := by
  induction entries with
  | nil => rfl
  | cons head rest ih =>
      rw [List.map_cons, insert, insert, ih]
      split
      · rfl
      · split <;> rfl

theorem ofList_map (write : α → β) (entries : List (String × α)) :
    ofList (entries.map fun entry => (entry.1, write entry.2)) =
      (ofList entries).map fun entry => (entry.1, write entry.2) := by
  suffices ∀ table : List (String × α),
      (entries.map fun entry => (entry.1, write entry.2)).foldl
          (fun table entry => insert entry.1 entry.2 table)
          (table.map fun entry => (entry.1, write entry.2)) =
        (entries.foldl (fun table entry => insert entry.1 entry.2 table) table).map
          fun entry => (entry.1, write entry.2) from this []
  induction entries with
  | nil => exact fun _ => rfl
  | cons head rest ih =>
      intro table
      have inserted := insert_map write head.1 head.2 table
      rw [List.map_cons, List.foldl_cons, List.foldl_cons, inserted, ih]

theorem mem_of_mem_ofList {entry : String × α} {entries : List (String × α)}
    (listed : entry ∈ ofList entries) : entry ∈ entries := by
  suffices ∀ table : List (String × α),
      entry ∈ entries.foldl (fun table entry => insert entry.1 entry.2 table) table →
        entry ∈ table ∨ entry ∈ entries from (this [] listed).resolve_left List.not_mem_nil
  clear listed
  induction entries with
  | nil => exact fun _ listed => .inl listed
  | cons head rest ih =>
      intro table listed
      rcases ih _ listed with inTable | later
      · rcases mem_insert inTable with rfl | before
        · exact .inr List.mem_cons_self
        · exact .inl before
      · exact .inr (List.mem_cons_of_mem head later)

end Members

namespace Json

theorem canonicalItems_iff {items : List Json} :
    CanonicalItems items ↔ ∀ item ∈ items, item.Canonical := by
  induction items with
  | nil => simp [CanonicalItems]
  | cons item rest ih => rw [CanonicalItems, ih, List.forall_mem_cons]

theorem canonicalMembers_iff {members : List (String × Json)} :
    CanonicalMembers members ↔ ∀ member ∈ members, member.2.Canonical := by
  induction members with
  | nil => simp [CanonicalMembers]
  | cons member rest ih => rw [CanonicalMembers, ih, List.forall_mem_cons]

theorem canonical_arr {items : List Json} :
    (arr items).Canonical ↔ ∀ item ∈ items, item.Canonical := by
  rw [Canonical, canonicalItems_iff]

theorem canonical_obj {members : List (String × Json)} :
    (obj members).Canonical ↔
      Members.Sorted members ∧ ∀ member ∈ members, member.2.Canonical := by
  rw [Canonical, canonicalMembers_iff]

mutual

/-- The value with the members of every object in the order of their names.  Of
several members of one name the last one stays. -/
def sorted : Json → Json
  | .null => .null
  | .bool truth => .bool truth
  | .num number => .num number
  | .str text => .str text
  | .arr items => .arr (sortedItems items)
  | .obj members => object (sortedMembers members)

def sortedItems : List Json → List Json
  | [] => []
  | item :: rest => item.sorted :: sortedItems rest

def sortedMembers : List (String × Json) → List (String × Json)
  | [] => []
  | (name, value) :: rest => (name, value.sorted) :: sortedMembers rest

end

theorem sortedItems_eq_map (items : List Json) : sortedItems items = items.map sorted := by
  induction items with
  | nil => rfl
  | cons item rest ih => rw [sortedItems, ih, List.map_cons]

theorem sortedMembers_eq_map (members : List (String × Json)) :
    sortedMembers members = members.map fun member => (member.1, member.2.sorted) := by
  induction members with
  | nil => rfl
  | cons member rest ih => rw [sortedMembers, ih, List.map_cons]

mutual

theorem sorted_of_canonical {value : Json} (canonical : value.Canonical) :
    value.sorted = value := by
  cases value with
  | null => rfl
  | bool truth => rfl
  | num number => rfl
  | str text => rfl
  | arr items => rw [sorted, sortedItems_of_canonical (canonical_arr.1 canonical)]
  | obj members =>
      have ⟨ordered, inside⟩ := canonical_obj.1 canonical
      rw [sorted, sortedMembers_of_canonical inside, object, Members.ofList_of_sorted ordered]

theorem sortedItems_of_canonical {items : List Json}
    (canonical : ∀ item ∈ items, item.Canonical) : sortedItems items = items := by
  cases items with
  | nil => rfl
  | cons item rest =>
      have ⟨first, later⟩ := List.forall_mem_cons.1 canonical
      rw [sortedItems, sorted_of_canonical first, sortedItems_of_canonical later]

theorem sortedMembers_of_canonical {members : List (String × Json)}
    (canonical : ∀ member ∈ members, member.2.Canonical) : sortedMembers members = members := by
  cases members with
  | nil => rfl
  | cons member rest =>
      have ⟨first, later⟩ := List.forall_mem_cons.1 canonical
      rw [sortedMembers, sorted_of_canonical first, sortedMembers_of_canonical later]

end

mutual

/-- No object inside the value uses a name twice. -/
def Distinct : Json → Prop
  | .null | .bool _ | .num _ | .str _ => True
  | .arr items => DistinctItems items
  | .obj members => (Members.names members).Nodup ∧ DistinctMembers members

def DistinctItems : List Json → Prop
  | [] => True
  | item :: rest => item.Distinct ∧ DistinctItems rest

def DistinctMembers : List (String × Json) → Prop
  | [] => True
  | (_, value) :: rest => value.Distinct ∧ DistinctMembers rest

end

theorem distinctItems_iff {items : List Json} :
    DistinctItems items ↔ ∀ item ∈ items, item.Distinct := by
  induction items with
  | nil => simp [DistinctItems]
  | cons item rest ih => rw [DistinctItems, ih, List.forall_mem_cons]

theorem distinctMembers_iff {members : List (String × Json)} :
    DistinctMembers members ↔ ∀ member ∈ members, member.2.Distinct := by
  induction members with
  | nil => simp [DistinctMembers]
  | cons member rest ih => rw [DistinctMembers, ih, List.forall_mem_cons]

theorem distinct_arr {items : List Json} :
    (arr items).Distinct ↔ ∀ item ∈ items, item.Distinct := by
  rw [Distinct, distinctItems_iff]

theorem distinct_obj {members : List (String × Json)} :
    (obj members).Distinct ↔
      (Members.names members).Nodup ∧ ∀ member ∈ members, member.2.Distinct := by
  rw [Distinct, distinctMembers_iff]

theorem distinct_obj_perm {members others : List (String × Json)}
    (rearranged : members.Perm others) : (obj members).Distinct ↔ (obj others).Distinct := by
  rw [distinct_obj, distinct_obj]
  exact and_congr (rearranged.map Prod.fst).nodup_iff
    (forall_congr' fun member => imp_congr_left rearranged.mem_iff)

/-- One member of an object has a name and a value, and so has the rest. -/
theorem distinct_obj_middle {front back : List (String × Json)} {name : String} {value : Json} :
    (obj (front ++ (name, value) :: back)).Distinct ↔
      (name ∉ Members.names (front ++ back) ∧ value.Distinct) ∧ (obj (front ++ back)).Distinct := by
  rw [distinct_obj_perm List.perm_middle, distinct_obj, distinct_obj, List.forall_mem_cons,
    Members.names, List.map_cons, List.nodup_cons, and_and_and_comm]
  rfl

theorem distinct_arr_middle {front back : List Json} {value : Json} :
    (arr (front ++ value :: back)).Distinct ↔ value.Distinct ∧ (arr (front ++ back)).Distinct := by
  rw [distinct_arr, distinct_arr, List.forall_mem_append, List.forall_mem_append,
    List.forall_mem_cons, and_left_comm]

mutual

/-- Names that increase are all different. -/
theorem distinct_of_canonical {value : Json} (canonical : value.Canonical) : value.Distinct := by
  cases value with
  | null | bool truth | num number | str text => trivial
  | arr items => exact distinctItems_of_canonical canonical
  | obj members =>
      have increasing := Members.sorted_iff_pairwise_names.1 canonical.1
      exact ⟨increasing.imp String.ne_of_lt, distinctMembers_of_canonical canonical.2⟩

theorem distinctItems_of_canonical {items : List Json} (canonical : CanonicalItems items) :
    DistinctItems items := by
  cases items with
  | nil => trivial
  | cons item rest =>
      exact ⟨distinct_of_canonical canonical.1, distinctItems_of_canonical canonical.2⟩

theorem distinctMembers_of_canonical {members : List (String × Json)}
    (canonical : CanonicalMembers members) : DistinctMembers members := by
  cases members with
  | nil => trivial
  | cons member rest =>
      exact ⟨distinct_of_canonical canonical.1, distinctMembers_of_canonical canonical.2⟩

end

mutual

theorem canonical_sorted (value : Json) : value.sorted.Canonical := by
  cases value with
  | null | bool truth | num number | str text => trivial
  | arr items =>
      rw [sorted, canonical_arr]
      exact canonical_of_mem_sortedItems items
  | obj members =>
      rw [sorted, object, canonical_obj]
      exact ⟨Members.sorted_ofList _, fun member listed =>
        canonical_of_mem_sortedMembers members member (Members.mem_of_mem_ofList listed)⟩

theorem canonical_of_mem_sortedItems (items : List Json) :
    ∀ item ∈ sortedItems items, item.Canonical := by
  cases items with
  | nil => exact nofun
  | cons item rest =>
      rw [sortedItems, List.forall_mem_cons]
      exact ⟨canonical_sorted item, canonical_of_mem_sortedItems rest⟩

theorem canonical_of_mem_sortedMembers (members : List (String × Json)) :
    ∀ member ∈ sortedMembers members, member.2.Canonical := by
  cases members with
  | nil => exact nofun
  | cons member rest =>
      rw [sortedMembers, List.forall_mem_cons]
      exact ⟨canonical_sorted member.2, canonical_of_mem_sortedMembers rest⟩

end

end Json

end CriteriaSearch
