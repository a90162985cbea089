import CriteriaSearch.Yaml.Basic
import Mathlib.Data.List.Nodup
import Mathlib.Data.List.Pairwise

namespace CriteriaSearch

/-!
# Records read from mappings

A record is read from a mapping entry by entry, and each entry for a field
changes the record that has been read so far.  A field has its own place in the
record, so what is found there in the end depends on the entry for this field
alone, wherever it stands and whatever else is given.  A field without an entry
keeps what was there at the start.

A mapping is refused for one of three things: a key that is no text, a field that
is given twice, and a value that does not fit its field.
-/

namespace Yaml.Document

/-! ## Entries of a mapping -/

/-- The entries of a mapping.  Where no value is written there are none. -/
def entries? (document : Document) (value : Yaml) : Option (List (Yaml × Yaml)) := do
  match ← document.follow? value with
  | .mapping entries => some entries
  | .scalar .plain _ "" => some []
  | _ => none

/-- The keys of entries, as far as they are texts. -/
def keys (document : Document) (entries : List (Yaml × Yaml)) : List (Option String) :=
  entries.map fun entry => document.text? entry.1

/-- What the first entry for a name holds. -/
def held? (document : Document) (name : String) (entries : List (Yaml × Yaml)) : Option Yaml :=
  entries.findSome? fun entry =>
    if document.text? entry.1 = some name then some entry.2 else none

/-- What a mapping has under a name. -/
def member? (document : Document) (name : String) (value : Yaml) : Option Yaml :=
  (document.entries? value).bind (document.held? name)

/-- Entries from which fields can be read, each with what it asks of its value.
Entries for other names do not matter. -/
structure Fit (document : Document) (fields : List (String × (Yaml → Prop)))
    (entries : List (Yaml × Yaml)) : Prop where
  /-- Every key is a text. -/
  named : none ∉ document.keys entries
  /-- No field is given twice. -/
  once : ∀ field ∈ fields, (document.keys entries).count (some field.1) ≤ 1
  fits : ∀ field ∈ fields, ∀ entry ∈ entries,
    document.text? entry.1 = some field.1 → field.2 entry.2

/-- A value from which a record with these fields can be read. -/
def IsRecord (document : Document) (fields : List (String × (Yaml → Prop))) (value : Yaml) :
    Prop :=
  ∃ entries, document.entries? value = some entries ∧ document.Fit fields entries

variable {document : Document} {σ : Type}

theorem record?_eq (fields : List (String × (Yaml → σ → Option σ))) (start : σ) (value : Yaml) :
    document.record? fields start value =
      (document.entries? value).bind (document.recordEntries? fields [] start) := by
  unfold record? entries?
  cases document.follow? value with
  | none => rfl
  | some value =>
      simp only [Option.bind_eq_bind, Option.bind_some]
      cases value with
      | mapping entries | sequence items | reference anchor => rfl
      | scalar style tag text =>
          cases style with
          | quoted | literal | folded => rfl
          | plain =>
              by_cases written : text = ""
              · rw [written]
                rfl
              · simp [written]

end Yaml.Document

/-! ## Places in a record -/

/-- A field of a record: how its values are read, and where they are kept. -/
structure Slot (σ : Type) where
  name : String
  Kind : Type
  read? : Yaml → Option Kind
  put : Kind → σ → σ
  get : σ → Kind
  get_put : ∀ value record, get (put value record) = value := by intros; rfl

namespace Slot

variable {σ : Type}

/-- The field as the reader of records takes it. -/
def setter (slot : Slot σ) : String × (Yaml → σ → Option σ) :=
  (slot.name, fun value record => (slot.read? value).map (slot.put · record))

/-- The field and what it asks of its value. -/
def demand (slot : Slot σ) : String × (Yaml → Prop) :=
  (slot.name, fun value => (slot.read? value).isSome = true)

/-- Two fields have different places. -/
def Apart (first second : Slot σ) : Prop :=
  (∀ value record, first.get (second.put value record) = first.get record) ∧
    ∀ value record, second.get (first.put value record) = second.get record

instance : Std.Symm (Apart (σ := σ)) where
  symm _ _ apart := ⟨apart.2, apart.1⟩

/-- Fields that can stand together in a record. -/
structure Layout (slots : List (Slot σ)) : Prop where
  distinct : (slots.map name).Nodup
  apart : slots.Pairwise Apart

variable {slots : List (Slot σ)} {slot other : Slot σ} {name : String}

theorem Layout.eq_of_name_eq (layout : Layout slots) (listed : slot ∈ slots)
    (also : other ∈ slots) (same : slot.name = other.name) : slot = other :=
  List.inj_on_of_nodup_map layout.distinct listed also same

theorem lookup_setter_eq_none (others : ∀ slot ∈ slots, slot.name ≠ name) :
    (slots.map setter).lookup name = none := by
  rw [List.lookup_eq_none_iff, List.forall_mem_map]
  intro slot listed
  simpa [setter] using (others slot listed).symm

theorem lookup_setter (distinct : (slots.map Slot.name).Nodup) (listed : slot ∈ slots) :
    (slots.map setter).lookup slot.name = some slot.setter.2 := by
  induction slots with
  | nil => cases listed
  | cons first rest ih =>
      rcases List.nodup_cons.mp distinct with ⟨new, distinct⟩
      rcases List.mem_cons.mp listed with rfl | later
      · exact List.lookup_cons_self
      · have different : (slot.name == first.name) = false := by
          rw [beq_eq_false_iff_ne]
          intro same
          exact new (same ▸ List.mem_map_of_mem later)
        rw [List.map_cons, setter, List.lookup_cons, different]
        exact ih distinct later

end Slot

/-! ## One entry -/

namespace Yaml.Document

variable {document : Document} {σ : Type} {slots : List (Slot σ)} {slot : Slot σ}
  {seen : List String} {start record : σ} {key value : Yaml} {rest entries : List (Yaml × Yaml)}
  {name : String}

/-- What becomes of a record when the entries that are left have been read. -/
def recordRest? (document : Document) (slots : List (Slot σ)) (seen : List String) (record : σ)
    (entries : List (Yaml × Yaml)) : Option σ :=
  document.recordEntries? (slots.map Slot.setter) seen record entries

theorem recordRest?_cons_of_unnamed (unnamed : document.text? key = none) :
    document.recordRest? slots seen start ((key, value) :: rest) = none := by
  rw [recordRest?, recordEntries?, unnamed]
  rfl

theorem recordRest?_cons_of_other (named : document.text? key = some name)
    (others : ∀ slot ∈ slots, slot.name ≠ name) :
    document.recordRest? slots seen start ((key, value) :: rest) =
      document.recordRest? slots seen start rest := by
  rw [recordRest?, recordEntries?, named, Option.bind_eq_bind, Option.bind_some,
    Slot.lookup_setter_eq_none others]
  rfl

theorem recordRest?_cons_of_slot (layout : Slot.Layout slots) (listed : slot ∈ slots)
    (named : document.text? key = some slot.name) :
    document.recordRest? slots seen start ((key, value) :: rest) =
      if slot.name ∈ seen then none
      else (slot.read? value).bind fun held =>
        document.recordRest? slots (slot.name :: seen) (slot.put held start) rest := by
  rw [recordRest?, recordEntries?, named, Option.bind_eq_bind, Option.bind_some,
    Slot.lookup_setter layout.distinct listed]
  simp only [List.contains_eq_mem, decide_eq_true_eq, Slot.setter, Option.bind_eq_bind,
    Option.bind_map]
  rfl

theorem keys_cons (named : document.text? key = some name) :
    document.keys ((key, value) :: rest) = some name :: document.keys rest := by
  rw [keys, List.map_cons, named, ← keys]

theorem held?_cons_self (named : document.text? key = some name) :
    document.held? name ((key, value) :: rest) = some value := by
  rw [held?, List.findSome?_cons, if_pos named]

theorem held?_cons_of_ne {other : String} (named : document.text? key = some other)
    (different : other ≠ name) :
    document.held? name ((key, value) :: rest) = document.held? name rest := by
  have unnamed : document.text? key ≠ some name := by
    rw [named]
    exact fun same => different (Option.some.inj same)
  rw [held?, List.findSome?_cons, if_neg unnamed, ← held?]

theorem held?_eq_none (absent : some name ∉ document.keys entries) :
    document.held? name entries = none := by
  rw [held?, List.findSome?_eq_none_iff]
  intro entry listed
  refine if_neg fun named => absent ?_
  rw [← named]
  exact List.mem_map_of_mem listed

/-- An entry fits if it is the only one for its field. -/
theorem fit_cons_iff {fields : List (String × (Yaml → Prop))}
    (named : document.text? key = some name) :
    document.Fit fields ((key, value) :: rest) ↔
      (∀ field ∈ fields, field.1 = name → field.2 value ∧ some name ∉ document.keys rest) ∧
        document.Fit fields rest := by
  constructor
  · intro fit
    have once := fit.once
    have texts := fit.named
    rw [keys_cons named] at once texts
    refine ⟨?_, fun inside => texts (List.mem_cons_of_mem _ inside), fun field listed => ?_,
      fun field listed entry later => fit.fits field listed entry (List.mem_cons_of_mem _ later)⟩
    · rintro field listed rfl
      refine ⟨fit.fits field listed (key, value) List.mem_cons_self named, ?_⟩
      have single := once field listed
      rw [List.count_cons_self] at single
      exact List.count_eq_zero.mp (by omega)
    · exact Nat.le_trans List.count_le_count_cons (once field listed)
  · rintro ⟨own, fit⟩
    refine ⟨?_, fun field listed => ?_, fun field listed entry among => ?_⟩
    · rw [keys_cons named, List.mem_cons]
      rintro (impossible | inside)
      · cases impossible
      · exact fit.named inside
    · rw [keys_cons named]
      by_cases same : field.1 = name
      · have first := List.count_eq_zero.mpr (own field listed same).2
        rw [same, List.count_cons_self]
        omega
      · rw [List.count_cons_of_ne fun equal => same (Option.some.inj equal).symm]
        exact fit.once field listed
    · rcases List.mem_cons.mp among with rfl | later
      · intro also
        exact (own field listed (Option.some.inj (also.symm.trans named))).1
      · exact fit.fits field listed entry later

theorem fit_cons_of_other (named : document.text? key = some name)
    (others : ∀ slot ∈ slots, slot.name ≠ name) :
    document.Fit (slots.map Slot.demand) ((key, value) :: rest) ↔
      document.Fit (slots.map Slot.demand) rest := by
  rw [fit_cons_iff named, List.forall_mem_map]
  exact and_iff_right fun slot listed same => absurd same (others slot listed)

theorem fit_cons_of_slot (layout : Slot.Layout slots) (listed : slot ∈ slots)
    (named : document.text? key = some slot.name) :
    document.Fit (slots.map Slot.demand) ((key, value) :: rest) ↔
      ((slot.read? value).isSome = true ∧ some slot.name ∉ document.keys rest) ∧
        document.Fit (slots.map Slot.demand) rest := by
  rw [fit_cons_iff named, List.forall_mem_map]
  refine and_congr_left fun _ => ⟨fun own => own slot listed rfl, fun own other also same => ?_⟩
  rw [layout.eq_of_name_eq also listed same]
  exact own

/-! ## All entries -/

/-- None of the entries gives a field that has been given already. -/
def Fresh (document : Document) (slots : List (Slot σ)) (seen : List String)
    (entries : List (Yaml × Yaml)) : Prop :=
  ∀ slot ∈ slots, slot.name ∈ seen → some slot.name ∉ document.keys entries

theorem fresh_cons_iff (named : document.text? key = some name) :
    document.Fresh slots seen ((key, value) :: rest) ↔
      (∀ slot ∈ slots, slot.name ∈ seen → slot.name ≠ name) ∧ document.Fresh slots seen rest := by
  simp only [Fresh, keys_cons named, List.mem_cons, not_or, Option.some.injEq, forall_and]

theorem fresh_seen_cons_iff (layout : Slot.Layout slots) (listed : slot ∈ slots) :
    document.Fresh slots (slot.name :: seen) entries ↔
      some slot.name ∉ document.keys entries ∧ document.Fresh slots seen entries := by
  constructor
  · intro fresh
    exact ⟨fresh slot listed List.mem_cons_self,
      fun other also given => fresh other also (List.mem_cons_of_mem _ given)⟩
  · rintro ⟨absent, fresh⟩ other also given
    rcases List.mem_cons.mp given with same | given
    · rwa [layout.eq_of_name_eq also listed same]
    · exact fresh other also given

/-- Reading succeeds for the entries that fit, and for no others. -/
theorem isSome_recordRest?_iff (layout : Slot.Layout slots) :
    (document.recordRest? slots seen start entries).isSome = true ↔
      document.Fit (slots.map Slot.demand) entries ∧ document.Fresh slots seen entries := by
  induction entries generalizing seen start with
  | nil =>
      refine iff_of_true rfl ⟨⟨nofun, fun field _ => ?_, fun _ _ => nofun⟩, fun _ _ _ => nofun⟩
      exact Nat.zero_le 1
  | cons entry rest ih =>
      obtain ⟨key, value⟩ := entry
      cases named : document.text? key with
      | none =>
          rw [recordRest?_cons_of_unnamed named]
          refine iff_of_false nofun fun fit => fit.1.named ?_
          rw [keys, List.map_cons, named]
          exact List.mem_cons_self
      | some name =>
          by_cases known : ∃ slot ∈ slots, slot.name = name
          · rcases known with ⟨slot, listed, rfl⟩
            rw [recordRest?_cons_of_slot layout listed named,
              fit_cons_of_slot layout listed named, fresh_cons_iff named]
            split
            · next given =>
                exact iff_of_false nofun fun fit => fit.2.1 slot listed given rfl
            · next new =>
                have apart : ∀ other ∈ slots, other.name ∈ seen → other.name ≠ slot.name :=
                  fun other _ given same => new (same ▸ given)
                rw [and_iff_right apart]
                cases own : slot.read? value with
                | none => exact iff_of_false nofun fun fit => nomatch fit.1.1.1
                | some held =>
                    rw [Option.bind_some, ih, fresh_seen_cons_iff layout listed]
                    constructor
                    · rintro ⟨fit, absent, fresh⟩
                      exact ⟨⟨⟨rfl, absent⟩, fit⟩, fresh⟩
                    · rintro ⟨⟨⟨-, absent⟩, fit⟩, fresh⟩
                      exact ⟨fit, absent, fresh⟩
          · have others : ∀ slot ∈ slots, slot.name ≠ name := by simpa using known
            rw [recordRest?_cons_of_other named others, ih, fit_cons_of_other named others,
              fresh_cons_iff named, and_iff_right fun slot listed _ => others slot listed]

/-- Each field holds what its entry gives, or what it held at the start. -/
theorem get_of_recordRest? (layout : Slot.Layout slots)
    (read : document.recordRest? slots seen start entries = some record) (listed : slot ∈ slots) :
    slot.get record =
      ((document.held? slot.name entries).bind slot.read?).getD (slot.get start) := by
  -- Along the entries a place changes at most once, when the entry for its field is read.
  induction entries generalizing seen start with
  | nil =>
      cases read
      rfl
  | cons entry rest ih =>
      obtain ⟨key, value⟩ := entry
      cases named : document.text? key with
      | none =>
          rw [recordRest?_cons_of_unnamed named] at read
          cases read
      | some name =>
          by_cases known : ∃ other ∈ slots, other.name = name
          · rcases known with ⟨other, also, rfl⟩
            rw [recordRest?_cons_of_slot layout also named] at read
            split at read
            · cases read
            · rcases Option.bind_eq_some_iff.mp read with ⟨held, own, read⟩
              rw [ih read]
              by_cases same : other.name = slot.name
              · -- The field that has just been put in is not given again.
                cases layout.eq_of_name_eq also listed same
                have fresh := ((isSome_recordRest?_iff layout).mp (Option.isSome_of_eq_some read)).2
                have absent := fresh slot listed List.mem_cons_self
                rw [held?_cons_self named, held?_eq_none absent, slot.get_put]
                exact (congrArg (Option.getD · _) own).symm
              · have apart := layout.apart.forall listed also fun equal => same (equal ▸ rfl)
                rw [held?_cons_of_ne named same, apart.1]
          · have others : ∀ slot ∈ slots, slot.name ≠ name := by simpa using known
            rw [recordRest?_cons_of_other named others] at read
            rw [ih read, held?_cons_of_ne named (others slot listed).symm]

/-! ## Records -/

theorem IsRecord.fits {fields : List (String × (Yaml → Prop))} {field : String × (Yaml → Prop)}
    {own : Yaml} (isRecord : document.IsRecord fields value) (listed : field ∈ fields)
    (member : document.member? field.1 value = some own) : field.2 own := by
  rcases isRecord with ⟨entries, mapping, fit⟩
  rw [member?, mapping, Option.bind_some, held?] at member
  rcases List.exists_of_findSome?_eq_some member with ⟨entry, among, found⟩
  split at found
  · next named =>
      cases found
      exact fit.fits field listed entry among named
  · cases found

theorem isSome_record?_iff (layout : Slot.Layout slots) :
    (document.record? (slots.map Slot.setter) start value).isSome = true ↔
      document.IsRecord (slots.map Slot.demand) value := by
  rw [record?_eq, IsRecord]
  cases document.entries? value with
  | none => exact iff_of_false nofun fun ⟨_, impossible, _⟩ => nomatch impossible
  | some entries =>
      have fresh : document.Fresh slots [] entries := fun _ _ => nofun
      rw [Option.bind_some, ← recordRest?, isSome_recordRest?_iff layout, and_iff_left fresh]
      simp

theorem get_of_record? (layout : Slot.Layout slots)
    (read : document.record? (slots.map Slot.setter) start value = some record)
    (listed : slot ∈ slots) :
    slot.get record =
      ((document.member? slot.name value).bind slot.read?).getD (slot.get start) := by
  rw [record?_eq] at read
  rcases Option.bind_eq_some_iff.mp read with ⟨entries, mapping, read⟩
  rw [get_of_recordRest? layout read listed, member?, mapping]
  rfl

/-- In a record that may be missing, each field holds what it is given where the
record is, and what it held at the start elsewhere. -/
theorem get_getD_record? (layout : Slot.Layout slots) (start : σ) {source : Option Yaml}
    (fits : ∀ value ∈ source, document.IsRecord (slots.map Slot.demand) value)
    (listed : slot ∈ slots) :
    slot.get ((source.bind (document.record? (slots.map Slot.setter) start)).getD start) =
      ((source.bind (document.member? slot.name)).bind slot.read?).getD (slot.get start) := by
  cases source with
  | none => rfl
  | some value =>
      have succeeds : (document.record? (slots.map Slot.setter) start value).isSome = true :=
        (isSome_record?_iff layout).mpr (fits value rfl)
      rcases Option.isSome_iff_exists.mp succeeds with ⟨record, read⟩
      rw [Option.bind_some, Option.bind_some, read, Option.getD_some,
        get_of_record? layout read listed]

end Yaml.Document

end CriteriaSearch
