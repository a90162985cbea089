import CriteriaSearch.Proofs.Condition.Leaves
import Mathlib.Data.List.Induction

namespace CriteriaSearch

/-!
# Putting values into a leaf

A leaf is filled in place, and a step that fails could leave anything behind.
What a leaf holds is looked at field by field here: an entry for every field
of a table, or the names of the fields that have to be there.  One step either
changes what its own field holds or nothing at all, and it does the first
exactly if the kind takes the values.

From this follows what a whole run of steps leaves behind, whichever of them
fail.  The steps are gone through from the last one, since a later step for a
field makes the earlier ones for it forgotten.
-/

/-! ## What a leaf holds, field by field -/

namespace Leaf

/-- What a leaf holds for a field. -/
inductive Entry where
  | scalars (held : List Scalar)
  | phrases (held : List String)
  | range (held : RangeEntry)
  | text (held : String)

/-- The entry for a field.  Fields that only have to be there have none. -/
def find? (field : String) : Leaf → Option Entry
  | .terms table => (table.find? field).map .scalars
  | .phrase table => (table.find? field).map .phrases
  | .range table => (table.find? field).map .range
  | .start table | .pattern table => (table.find? field).map .text
  | .presence _ => none

/-- The names of fields that have to be there. -/
def names : Leaf → List String
  | .presence names => names
  | .terms _ | .phrase _ | .range _ | .start _ | .pattern _ => []

end Leaf

namespace LeafKind

/-- Values of a field and the entry that they come to. -/
def States (values : List Json) (entry : Leaf.Entry) : LeafKind → Prop
  | .terms => ∃ held, values = held.map Scalar.toJson ∧ entry = .scalars held
  | .phrase => ∃ held, values = held.map .str ∧ entry = .phrases held
  | .range => ∃ held, RangeStated values held ∧ entry = .range held
  | .start | .pattern => ∃ held, TextStated values held ∧ entry = .text held
  | .presence => False

/-- These are the values of the last step for a field whose values are taken. -/
def LastTaken (kind : LeafKind) (steps : List (String × List Json)) (field : String)
    (values : List Json) : Prop :=
  ∃ front back, steps = front ++ (field, values) :: back ∧ kind.Takes values ∧
    ∀ step ∈ back, step.1 = field → ¬ kind.Takes step.2

end LeafKind

namespace Leaf

/-- What a step does to a leaf of a kind: it succeeds exactly if the values are
taken, and then it changes what its field holds and nothing else.  If it
fails, it changes nothing. -/
structure PutsExactly (kind : LeafKind) (leaf : Leaf) (field : String) (values : List Json) :
    Prop where
  succeeds_iff : (∃ after, put field values leaf = .ok () after) ↔ kind.Takes values
  unchanged : ∀ fault after, put field values leaf = .error fault after → after = leaf
  kind_eq : ∀ after, put field values leaf = .ok () after → after.kind = kind
  entry : kind ≠ .presence → ∀ after, put field values leaf = .ok () after →
    ∃ entry, kind.States values entry ∧ after.find? field = some entry
  others : ∀ after, put field values leaf = .ok () after →
    ∀ other, other ≠ field → after.find? other = leaf.find? other
  names : kind = .presence → ∀ after, put field values leaf = .ok () after →
    after.names = leaf.names ++ [field]

/-- A leaf of a kind after some steps.  Every field holds the values of the
last step for it that succeeded, and the names of fields that have to be there
are those of all steps. -/
structure FilledBy (kind : LeafKind) (steps : List (String × List Json)) (leaf : Leaf) :
    Prop where
  kind_eq : leaf.kind = kind
  held : kind ≠ .presence → ∀ field values, kind.LastTaken steps field values →
    ∃ entry, kind.States values entry ∧ leaf.find? field = some entry
  absent : ∀ field, (∀ values, ¬ kind.LastTaken steps field values) → leaf.find? field = none
  names : kind = .presence → leaf.names = steps.map Prod.fst

/-! ## One step -/

variable {kind : LeafKind} {leaf after : Leaf} {field : String} {values : List Json}

/-- Nothing is put into a leaf before the values are checked. -/
theorem put_eq (field : String) (values : List Json) (leaf : Leaf) :
    put field values leaf = match leaf.insert field values with
      | .ok after => .ok () after
      | .error fault => .error fault leaf := by
  cases leaf with
  | terms table =>
      rw [insert]
      cases checked : scalars field values <;> simp only [put, checked] <;> rfl
  | phrase table =>
      rw [insert]
      cases checked : phrases field values <;> simp only [put, checked] <;> rfl
  | range table =>
      rw [insert]
      cases checked : rangeEntry field values <;> simp only [put, checked] <;> rfl
  | start table =>
      rw [insert]
      cases checked : firstText field values <;> simp only [put, checked] <;> rfl
  | pattern table =>
      rw [insert]
      cases checked : firstText field values <;> simp only [put, checked] <;> rfl
  | presence names => rfl

theorem put_eq_ok :
    put field values leaf = .ok () after ↔ leaf.insert field values = .ok after := by
  rw [put_eq]
  cases leaf.insert field values <;> simp

theorem put_eq_error {fault : ConditionFault} :
    put field values leaf = .error fault after ↔
      leaf.insert field values = .error fault ∧ leaf = after := by
  rw [put_eq]
  cases leaf.insert field values <;> simp

end Leaf

namespace LeafKind

/-- A kind of leaf that keeps a table, of which each entry is seen. -/
structure Shows {α : Type} (kind : LeafKind) (form : FieldMap α → Leaf)
    (stated : List Json → α → Prop) (shown : α → Leaf.Entry) : Prop extends
    kind.Keeps form stated where
  kind_iff : ∀ leaf, leaf.kind = kind ↔ ∃ table, form table = leaf
  find?_eq : ∀ field table, (form table).find? field = (table.find? field).map shown
  states_iff : ∀ values entry,
    kind.States values entry ↔ ∃ held, stated values held ∧ entry = shown held
  injective : ∀ first second, shown first = shown second → first = second

/-- All leaves keep a table but those that ask for presence. -/
theorem exists_shows {kind : LeafKind} (tabled : kind ≠ .presence) :
    ∃ (α : Type) (form : FieldMap α → Leaf) (stated : List Json → α → Prop)
      (shown : α → Leaf.Entry), kind.Shows form stated shown := by
  cases kind with
  | terms =>
      refine ⟨_, _, _, .scalars, keeps_terms, fun leaf => ?_, fun _ _ => rfl, fun _ _ => Iff.rfl,
        fun _ _ => Leaf.Entry.scalars.inj⟩
      cases leaf <;> simp [Leaf.kind]
  | phrase =>
      refine ⟨_, _, _, .phrases, keeps_phrase, fun leaf => ?_, fun _ _ => rfl, fun _ _ => Iff.rfl,
        fun _ _ => Leaf.Entry.phrases.inj⟩
      cases leaf <;> simp [Leaf.kind]
  | range =>
      refine ⟨_, _, _, .range, keeps_range, fun leaf => ?_, fun _ _ => rfl, fun _ _ => Iff.rfl,
        fun _ _ => Leaf.Entry.range.inj⟩
      cases leaf <;> simp [Leaf.kind]
  | start =>
      refine ⟨_, _, _, .text, keeps_start, fun leaf => ?_, fun _ _ => rfl, fun _ _ => Iff.rfl,
        fun _ _ => Leaf.Entry.text.inj⟩
      cases leaf <;> simp [Leaf.kind]
  | pattern =>
      refine ⟨_, _, _, .text, keeps_pattern, fun leaf => ?_, fun _ _ => rfl, fun _ _ => Iff.rfl,
        fun _ _ => Leaf.Entry.text.inj⟩
      cases leaf <;> simp [Leaf.kind]
  | presence => exact absurd rfl tabled

namespace Shows

variable {α : Type} {kind : LeafKind} {form : FieldMap α → Leaf} {stated : List Json → α → Prop}
  {shown : α → Leaf.Entry} {field : String} {values : List Json} {table : FieldMap α}
  {after : Leaf}

theorem put_eq_ok (shows : kind.Shows form stated shown) :
    Leaf.put field values (form table) = .ok () after ↔
      ∃ held, stated values held ∧ form (table.insert field held) = after := by
  rw [Leaf.put_eq_ok]
  exact shows.insert_eq_ok field values table after

theorem putsExactly (shows : kind.Shows form stated shown) (tabled : kind ≠ .presence)
    (table : FieldMap α) (field : String) (values : List Json) :
    Leaf.PutsExactly kind (form table) field values where
  succeeds_iff := by
    simp only [shows.put_eq_ok]
    rw [shows.takes_iff]
    constructor
    · rintro ⟨_, held, states, -⟩
      exact ⟨held, states⟩
    · rintro ⟨held, states⟩
      exact ⟨_, held, states, rfl⟩
  unchanged fault after failed := (Leaf.put_eq_error.1 failed).2.symm
  kind_eq after done := by
    rcases shows.put_eq_ok.1 done with ⟨held, -, same⟩
    exact (shows.kind_iff after).2 ⟨_, same⟩
  entry _ after done := by
    rcases shows.put_eq_ok.1 done with ⟨held, states, rfl⟩
    refine ⟨shown held, (shows.states_iff _ _).2 ⟨held, states, rfl⟩, ?_⟩
    rw [shows.find?_eq]
    exact congrArg (Option.map shown) (Members.find?_insert_self field held table.entries)
  others after done other different := by
    rcases shows.put_eq_ok.1 done with ⟨held, -, rfl⟩
    rw [shows.find?_eq, shows.find?_eq]
    exact congrArg (Option.map shown) (Members.find?_insert_of_ne different held table.entries)
  names presence := absurd presence tabled

/-- Values come to one entry at most. -/
theorem states_unique (shows : kind.Shows form stated shown) {first second : Leaf.Entry}
    (states : kind.States values first) (also : kind.States values second) : first = second := by
  rcases (shows.states_iff values first).1 states with ⟨held, here, rfl⟩
  rcases (shows.states_iff values second).1 also with ⟨other, there, rfl⟩
  -- Both entries come of the same step to an empty leaf.
  have put : Leaf.put "" values (form .empty) = .ok () (form (FieldMap.empty.insert "" held)) :=
    shows.put_eq_ok.2 ⟨held, here, rfl⟩
  have putOther :
      Leaf.put "" values (form .empty) = .ok () (form (FieldMap.empty.insert "" other)) :=
    shows.put_eq_ok.2 ⟨other, there, rfl⟩
  have same : form (FieldMap.empty.insert "" held) = form (FieldMap.empty.insert "" other) :=
    (EStateM.Result.ok.inj (put.symm.trans putOther)).2
  have alike := congrArg (Leaf.find? "") same
  rw [shows.find?_eq, shows.find?_eq] at alike
  exact Option.some.inj alike

/-- A table is known from its entries. -/
theorem eq_of_find?_eq (shows : kind.Shows form stated shown) {first second : FieldMap α}
    (same : ∀ field, (form first).find? field = (form second).find? field) : first = second := by
  apply FieldMap.ext
  apply first.sorted.eq_of_find?_eq second.sorted
  intro field
  have alike := same field
  rw [shows.find?_eq, shows.find?_eq] at alike
  exact Option.map_injective shows.injective alike

end Shows

end LeafKind

namespace Leaf

variable {kind : LeafKind} {leaf : Leaf} {field : String} {values : List Json}
  {steps : List (String × List Json)}

theorem putsExactly_presence (names : List String) (field : String) (values : List Json) :
    PutsExactly .presence (.presence names) field values where
  succeeds_iff := ⟨fun _ => trivial, fun _ => ⟨_, rfl⟩⟩
  unchanged fault after failed := nomatch failed
  kind_eq after done := by
    cases done
    rfl
  entry impossible := absurd rfl impossible
  others after done other different := by
    cases done
    rfl
  names _ after done := by
    cases done
    rfl

/-- Every step to every leaf does what it should. -/
theorem putsExactly (leaf : Leaf) (field : String) (values : List Json) :
    PutsExactly leaf.kind leaf field values := by
  by_cases tabled : leaf.kind = .presence
  · cases leaf with
    | presence names => exact putsExactly_presence names field values
    | terms | phrase | range | start | pattern => cases tabled
  · rcases LeafKind.exists_shows tabled with ⟨α, form, stated, shown, shows⟩
    rcases (shows.kind_iff leaf).1 rfl with ⟨table, same⟩
    have puts := shows.putsExactly tabled table field values
    rw [same] at puts
    exact puts

end Leaf

/-! ## Steps one after the other -/

/-- An item of a list with one more at the end is either that one or it stands
in the list before. -/
theorem concat_eq_append_cons_iff {α : Type} {items front back : List α} {item last : α} :
    items ++ [last] = front ++ item :: back ↔
      (items = front ∧ last = item ∧ back = []) ∨
        ∃ middle, back = middle ++ [last] ∧ items = front ++ item :: middle := by
  constructor
  · intro split
    rcases List.eq_nil_or_concat back with rfl | ⟨middle, other, rfl⟩
    · have ⟨begun, ended⟩ := List.append_inj' split rfl
      exact Or.inl ⟨begun, List.singleton_inj.1 ended, rfl⟩
    · rw [List.concat_eq_append, ← List.cons_append, ← List.append_assoc] at split
      have ⟨begun, ended⟩ := List.append_inj' split rfl
      rw [List.singleton_inj.1 ended]
      exact Or.inr ⟨middle, List.concat_eq_append, begun⟩
  · rintro (⟨rfl, rfl, rfl⟩ | ⟨middle, rfl, rfl⟩)
    · rfl
    · rw [List.append_assoc, List.cons_append]

namespace LeafKind

variable {kind : LeafKind} {field : String} {values : List Json}
  {steps : List (String × List Json)} {step : String × List Json}

/-- A step for another field, or one that fails, makes nothing forgotten. -/
theorem lastTaken_concat_of_not (aside : step.1 = field → ¬ kind.Takes step.2) :
    kind.LastTaken (steps ++ [step]) field values ↔ kind.LastTaken steps field values := by
  constructor
  · rintro ⟨front, back, split, taken, later⟩
    rcases concat_eq_append_cons_iff.1 split with ⟨-, rfl, -⟩ | ⟨middle, rfl, before⟩
    · exact absurd taken (aside rfl)
    · exact ⟨front, middle, before, taken,
        fun other listed => later other (List.mem_append_left _ listed)⟩
  · rintro ⟨front, back, split, taken, later⟩
    refine ⟨front, back ++ [step], concat_eq_append_cons_iff.2 (Or.inr ⟨back, rfl, split⟩), taken,
      fun other listed => ?_⟩
    rcases List.mem_append.1 listed with before | last
    · exact later other before
    · exact List.mem_singleton.1 last ▸ aside

/-- A step that succeeds makes all earlier ones for its field forgotten. -/
theorem lastTaken_concat_self (taken : kind.Takes values) {others : List Json} :
    kind.LastTaken (steps ++ [(field, values)]) field others ↔ others = values := by
  constructor
  · rintro ⟨front, back, split, -, later⟩
    rcases concat_eq_append_cons_iff.1 split with ⟨-, same, -⟩ | ⟨middle, rfl, -⟩
    · exact (Prod.ext_iff.1 same).2.symm
    · exact absurd taken (later (field, values) List.mem_concat_self rfl)
  · rintro rfl
    exact ⟨steps, [], rfl, taken, nofun⟩

end LeafKind

namespace Leaf

variable {kind : LeafKind} {leaf : Leaf} {field : String} {values : List Json}
  {steps : List (String × List Json)}

theorem putEach_append (front back : List (String × List Json)) (leaf : Leaf) :
    putEach (front ++ back) leaf = putEach back (putEach front leaf) := by
  induction front generalizing leaf with
  | nil => rfl
  | cons step rest ih =>
      rw [List.cons_append, putEach, putEach]
      cases put step.1 step.2 leaf with
      | ok done after => exact ih after
      | error fault after => exact ih after

theorem filledBy_empty (kind : LeafKind) : FilledBy kind [] (empty kind) where
  kind_eq := by cases kind <;> rfl
  held _ field values last := by
    rcases last with ⟨front, back, split, -⟩
    cases front <;> cases split
  absent field _ := by cases kind <;> rfl
  names presence := by
    subst presence
    rfl

/-- One more step leaves the leaf filled by one more step. -/
theorem FilledBy.putEach_singleton (filled : FilledBy kind steps leaf) (field : String)
    (values : List Json) :
    FilledBy kind (steps ++ [(field, values)]) (putEach [(field, values)] leaf) := by
  have puts : PutsExactly kind leaf field values := filled.kind_eq ▸ leaf.putsExactly field values
  by_cases taken : kind.Takes values
  · rcases puts.succeeds_iff.2 taken with ⟨after, done⟩
    have whole : putEach [(field, values)] leaf = after := by
      rw [putEach, done]
      rfl
    rw [whole]
    constructor
    · exact puts.kind_eq after done
    · intro tabled other others last
      by_cases same : other = field
      · subst same
        rw [LeafKind.lastTaken_concat_self taken] at last
        subst last
        exact puts.entry tabled after done
      · rw [LeafKind.lastTaken_concat_of_not fun named => absurd named.symm same] at last
        rw [puts.others after done other same]
        exact filled.held tabled other others last
    · intro other never
      by_cases same : other = field
      · subst same
        exact absurd ((LeafKind.lastTaken_concat_self taken).2 rfl) (never values)
      · rw [puts.others after done other same]
        apply filled.absent
        intro others last
        apply never others
        exact (LeafKind.lastTaken_concat_of_not fun named => absurd named.symm same).2 last
    · intro presence
      rw [puts.names presence after done, filled.names presence, List.map_append]
      rfl
  · have whole : putEach [(field, values)] leaf = leaf := by
      rw [putEach]
      cases outcome : put field values leaf with
      | ok done after => exact absurd (puts.succeeds_iff.1 ⟨after, outcome⟩) taken
      | error fault after => exact puts.unchanged fault after outcome
    have forgotten (other : String) (others : List Json) :
        kind.LastTaken (steps ++ [(field, values)]) other others ↔
          kind.LastTaken steps other others :=
      LeafKind.lastTaken_concat_of_not fun _ => taken
    rw [whole]
    constructor
    · exact filled.kind_eq
    · intro tabled other others last
      exact filled.held tabled other others ((forgotten other others).1 last)
    · intro other never
      exact filled.absent other fun others last => never others ((forgotten other others).2 last)
    · intro presence
      subst presence
      exact absurd trivial taken

theorem filledBy_putEach (kind : LeafKind) (steps : List (String × List Json)) :
    FilledBy kind steps (putEach steps (empty kind)) := by
  -- The last step decides what its field holds, so the induction takes steps off the end.
  induction steps using List.reverseRecOn with
  | nil => exact filledBy_empty kind
  | append_singleton steps step ih =>
      rw [putEach_append]
      exact ih.putEach_singleton step.1 step.2

/-- Steps that put in the same values last, or the same names in the same
order, leave the same behind. -/
theorem FilledBy.eq_of_same {first second : Leaf} {others : List (String × List Json)}
    (filled : FilledBy kind steps first) (also : FilledBy kind others second)
    (held : kind ≠ .presence → ∀ field values,
      kind.LastTaken steps field values ↔ kind.LastTaken others field values)
    (named : kind = .presence → steps.map Prod.fst = others.map Prod.fst) : first = second := by
  by_cases tabled : kind = .presence
  · have whole (leaf : Leaf) (kind_eq : leaf.kind = .presence) : leaf = .presence leaf.names := by
      cases leaf with
      | presence names => rfl
      | terms | phrase | range | start | pattern => cases kind_eq
    rw [whole first (filled.kind_eq.trans tabled), whole second (also.kind_eq.trans tabled),
      filled.names tabled, also.names tabled, named tabled]
  · rcases LeafKind.exists_shows tabled with ⟨α, form, stated, shown, shows⟩
    rcases (shows.kind_iff first).1 filled.kind_eq with ⟨table, rfl⟩
    rcases (shows.kind_iff second).1 also.kind_eq with ⟨other, rfl⟩
    apply congrArg form
    apply shows.eq_of_find?_eq
    intro field
    by_cases taken : ∃ values, kind.LastTaken steps field values
    · rcases taken with ⟨values, last⟩
      rcases filled.held tabled field values last with ⟨entry, states, found⟩
      rcases also.held tabled field values ((held tabled field values).1 last) with
        ⟨entry', states', found'⟩
      rw [found, found', shows.states_unique states states']
    · rw [filled.absent field fun values last => taken ⟨values, last⟩,
        also.absent field fun values last => taken ⟨values, (held tabled field values).2 last⟩]

/-- However an empty leaf has been filled, some of the steps failing, it holds
what the last steps that succeeded have put into it and nothing else, and the
next step does exactly what it should. -/
theorem puts_exactly_and_keeps_last (kind : LeafKind) (steps : List (String × List Json)) :
    (∀ leaf, FilledBy kind steps leaf ↔ leaf = putEach steps (empty kind)) ∧
      ∀ field values, PutsExactly kind (putEach steps (empty kind)) field values := by
  have filled := filledBy_putEach kind steps
  constructor
  · intro leaf
    constructor
    · intro also
      exact also.eq_of_same filled (fun _ _ _ => Iff.rfl) fun _ => rfl
    · rintro rfl
      exact filled
  · intro field values
    have puts := (putEach steps (empty kind)).putsExactly field values
    rw [filled.kind_eq] at puts
    exact puts

/-- The second step fails, and the third one takes the place of the first. -/
example : putEach [("a", [.str "x"]), ("a", [.arr []]), ("a", [.bool true])] (empty .start) =
    .start ⟨[("a", "true")], List.pairwise_singleton _ _⟩ :=
  rfl

end Leaf

end CriteriaSearch
