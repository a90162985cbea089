/-!
# Members in the order of their names

Objects and field tables are kept as lists of named entries whose names strictly increase, so each
name occurs once and equal tables are equal lists.  Names are compared character by character,
which is also the order of their UTF-8 encodings.

`Members.insert` is the only way an entry gets in.  A name that is already there keeps its place
and changes its entry.
-/

namespace CriteriaSearch

namespace Members

variable {α β : Type}

/-- The names of the entries strictly increase. -/
def Sorted (entries : List (String × α)) : Prop :=
  entries.Pairwise fun a b => a.1 < b.1

/-- Puts an entry at its place, over an older entry of the same name. -/
def insert (name : String) (value : α) : List (String × α) → List (String × α)
  | [] => [(name, value)]
  | (other, held) :: rest =>
    if name < other then (name, value) :: (other, held) :: rest
    else if other < name then (other, held) :: insert name value rest
    else (name, value) :: rest

/-- The entry of a name. -/
def find? (name : String) : List (String × α) → Option α
  | [] => none
  | (other, held) :: rest => if other = name then some held else find? name rest

/-- The table that holds, for each name, the last entry given for it. -/
def ofList (entries : List (String × α)) : List (String × α) :=
  entries.foldl (fun table entry => insert entry.1 entry.2 table) []

/-- An entry of a table after an insertion is the one put in or an old one. -/
theorem mem_insert {name : String} {value : α} {entries : List (String × α)}
    {entry : String × α} (listed : entry ∈ insert name value entries) :
    entry = (name, value) ∨ entry ∈ entries := by
  induction entries with
  | nil => exact Or.inl (List.mem_singleton.1 listed)
  | cons head rest ih =>
      unfold insert at listed
      split at listed
      · exact List.mem_cons.1 listed
      split at listed
      · rcases List.mem_cons.1 listed with rfl | later
        · exact Or.inr List.mem_cons_self
        · exact (ih later).imp_right (List.mem_cons_of_mem _)
      · exact (List.mem_cons.1 listed).imp_right (List.mem_cons_of_mem _)

/-- Insertion keeps the names strictly increasing. -/
theorem sorted_insert {name : String} {value : α} {entries : List (String × α)}
    (sorted : Sorted entries) : Sorted (insert name value entries) := by
  induction entries with
  | nil => exact List.pairwise_singleton _ _
  | cons head rest ih =>
      rcases List.pairwise_cons.1 sorted with ⟨first, others⟩
      unfold insert
      split
      · next before =>
        refine List.pairwise_cons.2 ⟨fun entry listed => ?_, sorted⟩
        rcases List.mem_cons.1 listed with rfl | later
        · exact before
        · exact String.lt_trans before (first entry later)
      split
      · next behind =>
        refine List.pairwise_cons.2 ⟨fun entry listed => ?_, ih others⟩
        rcases mem_insert listed with rfl | later
        · exact behind
        · exact first entry later
      · next notBefore notBehind =>
        have same : name = head.1 := String.le_antisymm notBehind notBefore
        exact List.pairwise_cons.2 ⟨same ▸ first, others⟩

private theorem sorted_foldl_insert {entries table : List (String × α)} (sorted : Sorted table) :
    Sorted (entries.foldl (fun table entry => insert entry.1 entry.2 table) table) := by
  induction entries generalizing table with
  | nil => exact sorted
  | cons entry rest ih => exact ih (sorted_insert sorted)

/-- A table built from any list of entries has strictly increasing names. -/
theorem sorted_ofList (entries : List (String × α)) : Sorted (ofList entries) :=
  sorted_foldl_insert List.Pairwise.nil

theorem find?_append (name : String) (front back : List (String × α)) :
    find? name (front ++ back) = (find? name front).or (find? name back) := by
  induction front with
  | nil => rfl
  | cons head rest ih =>
      rw [List.cons_append, find?, find?]
      split
      · rfl
      · exact ih

/-- An entry that has been put in is found. -/
theorem find?_insert_self (name : String) (value : α) (entries : List (String × α)) :
    find? name (insert name value entries) = some value := by
  induction entries with
  | nil => exact if_pos rfl
  | cons head rest ih =>
      unfold insert
      split
      · exact if_pos rfl
      split
      · next behind => rw [find?, if_neg (String.ne_of_lt behind), ih]
      · exact if_pos rfl

/-- All other entries are found as before. -/
theorem find?_insert_of_ne {name other : String} (different : other ≠ name) (value : α)
    (entries : List (String × α)) :
    find? other (insert name value entries) = find? other entries := by
  induction entries with
  | nil => exact if_neg different.symm
  | cons head rest ih =>
      unfold insert
      split
      · rw [find?, if_neg different.symm]
      split
      · rw [find?, find?, ih]
      · next notBefore notBehind =>
        have same : name = head.1 := String.le_antisymm notBehind notBefore
        rw [find?, find?, if_neg different.symm, if_neg (same ▸ different.symm)]

/-- The entry of a table that has it only where there is a value. -/
theorem find?_toList_map (name other : String) (write : α → β) (value : Option α) :
    find? name (value.map fun v => (other, write v)).toList =
      if other = name then value.map write else none := by
  cases value with
  | none => exact (ite_self none).symm
  | some v => rfl

end Members

/-- A table from field names to entries. -/
structure FieldMap (α : Type) where
  entries : List (String × α)
  sorted : Members.Sorted entries := by exact List.Pairwise.nil

namespace FieldMap

variable {α β : Type}

@[ext]
theorem ext {table other : FieldMap α} (same : table.entries = other.entries) :
    table = other := by
  cases table
  cases other
  cases same
  rfl

instance [DecidableEq α] : DecidableEq (FieldMap α) := fun table other =>
  decidable_of_iff (table.entries = other.entries) ⟨ext, congrArg entries⟩

/-- The table without entries. -/
def empty : FieldMap α where
  entries := []

instance : Inhabited (FieldMap α) := ⟨empty⟩

/-- The table with one entry set. -/
def insert (table : FieldMap α) (name : String) (value : α) : FieldMap α where
  entries := Members.insert name value table.entries
  sorted := Members.sorted_insert table.sorted

/-- The entry of a name. -/
def find? (table : FieldMap α) (name : String) : Option α :=
  Members.find? name table.entries

/-- The table that holds, for each name, the last entry given for it. -/
def ofList (entries : List (String × α)) : FieldMap α where
  entries := Members.ofList entries
  sorted := Members.sorted_ofList entries

end FieldMap

end CriteriaSearch
