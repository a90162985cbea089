import CriteriaSearch.Proofs.Json.Outcomes
import Mathlib.Data.List.Pairwise

namespace CriteriaSearch

/-!
# Records whose members stand in any order

A record is read from an object member by member, and each field that is given
changes the record that has been read so far.  Fields that can be put in in
either order make the order of the members irrelevant: two members that stand
next to each other can change places, whatever has been read before them and
whatever is left.  A field that is given twice is refused in every order.
-/

namespace RecordField

variable {ε σ α β : Type}

/-- Two fields can be given in either order. -/
def Commutes (first second : RecordField ε σ) : Prop :=
  ∀ (own other : Json) (record : σ),
    (first.set .value (Reading.ofJson own) record >>=
        second.set .value (Reading.ofJson other)).toOption =
      (second.set .value (Reading.ofJson other) record >>=
        first.set .value (Reading.ofJson own)).toOption

instance : Std.Symm (Commutes (ε := ε) (σ := σ)) where
  symm _ _ commutes own other record := (commutes other own record).symm

/-- Fields that change different parts of a record commute. -/
theorem commutes_of {name other : String} {decode : Decoder ε α} {decodeOther : Decoder ε β}
    {put : α → σ → σ} {putOther : β → σ → σ} {aliases others : List String}
    (apart : ∀ value held record, put value (putOther held record) =
      putOther held (put value record)) :
    Commutes (of name decode put aliases) (of other decodeOther putOther others) := by
  intro own given record
  simp only [of]
  cases decode .value (Reading.ofJson own) with
  | error problem => cases decodeOther .value (Reading.ofJson given) <;> rfl
  | ok value =>
      cases decodeOther .value (Reading.ofJson given) with
      | error problem => rfl
      | ok held => exact congrArg some (apart value held record).symm

theorem Commutes.needed {first second : RecordField ε σ} (commutes : first.Commutes second) :
    first.needed.Commutes second :=
  commutes

/-- What a field does to a record does not depend on where the document comes
from. -/
def Portable (field : RecordField ε σ) : Prop :=
  ∀ record, Decode.Portable fun o r => field.set o r record

theorem Portable.needed {field : RecordField ε σ} (portable : field.Portable) :
    field.needed.Portable :=
  portable

theorem portable_of {name : String} {decode : Decoder ε α} (portable : Decode.Portable decode)
    (put : α → σ → σ) (aliases : List String) : Portable (of name decode put aliases) :=
  fun record _ _ admits => Decode.toOption_map_congr (put · record) (portable admits)

end RecordField

namespace Decode

variable {ε σ : Type} {fields : List (RecordField ε σ)} {field : RecordField ε σ} {o : Origin}
  {seen : List String} {record : σ} {name : String} {value : Json}
  {rest members : List (String × Json)}

/-- What becomes of a record when the members that are left have been read. -/
def recordRest (fields : List (RecordField ε σ)) (o : Origin) (seen : List String) (record : σ)
    (members : List (String × Json)) : Except (DecodeError ε) σ := do
  let (seen, record) ← recordMembers fields o seen record (Reading.ofMembers members)
  match fields.find? (fun field => field.required && !seen.contains field.name) with
  | some field => .error (.missing field.name)
  | none => return record

theorem record_obj (start : σ) :
    Decode.record fields start o (Reading.ofJson (.obj members)) =
      o.enter >>= fun inner => recordRest fields inner [] start members :=
  rfl

theorem record_arr (start : σ) (items : List Json) :
    Decode.record fields start o (Reading.ofJson (.arr items)) =
      o.enter >>= fun inner => recordItems inner true fields start (Reading.ofItems items) :=
  rfl

/-! ## One member -/

theorem recordRest_nil : recordRest fields o seen record [] =
    match fields.find? (fun field => field.required && !seen.contains field.name) with
    | some field => .error (.missing field.name)
    | none => .ok record :=
  rfl

theorem recordRest_cons_of_unnamed (unnamed : fields.find? (·.isNamed name) = none) :
    recordRest fields o seen record ((name, value) :: rest) =
      recordRest fields o seen record rest := by
  rw [recordRest, Reading.ofMembers, recordMembers, unnamed]
  simp only [Reading.skip_ofJson]
  rfl

theorem recordRest_cons_of_named (named : fields.find? (·.isNamed name) = some field)
    (unseen : field.name ∉ seen) :
    recordRest fields o seen record ((name, value) :: rest) =
      field.set o (Reading.ofJson value) record >>= fun record =>
        recordRest fields o (field.name :: seen) record rest := by
  have absent : seen.contains field.name = false := by simpa using unseen
  rw [recordRest, Reading.ofMembers, recordMembers, named]
  simp only [absent, Bool.false_eq_true, if_false, bind_assoc]
  rfl

/-- A field that has been given is refused. -/
theorem recordRest_cons_of_seen (named : fields.find? (·.isNamed name) = some field)
    (given : field.name ∈ seen) :
    recordRest fields o seen record ((name, value) :: rest) = .error (.duplicate field.name) := by
  have present : seen.contains field.name = true := by simpa using given
  rw [recordRest, Reading.ofMembers, recordMembers, named]
  simp only [present, if_true]
  rfl

/-- Members that do the same to every record can stand for each other. -/
theorem toOption_recordRest_cons_congr {source : Origin} {first second : String × Json}
    {others : List (String × Json)}
    (sameField : fields.find? (·.isNamed first.1) = fields.find? (·.isNamed second.1))
    (sameValue : ∀ field, fields.find? (·.isNamed first.1) = some field → ∀ record,
      (field.set o (Reading.ofJson first.2) record).toOption =
        (field.set source (Reading.ofJson second.2) record).toOption)
    (later : ∀ seen record, (recordRest fields o seen record rest).toOption =
      (recordRest fields source seen record others).toOption) :
    (recordRest fields o seen record (first :: rest)).toOption =
      (recordRest fields source seen record (second :: others)).toOption := by
  obtain ⟨name, value⟩ := first
  obtain ⟨also, held⟩ := second
  cases named : fields.find? (·.isNamed name) with
  | none =>
      rw [recordRest_cons_of_unnamed named, recordRest_cons_of_unnamed (sameField ▸ named)]
      exact later seen record
  | some field =>
      have namedAlso : fields.find? (·.isNamed also) = some field := sameField ▸ named
      by_cases given : field.name ∈ seen
      · rw [recordRest_cons_of_seen named given, recordRest_cons_of_seen namedAlso given]
      · rw [recordRest_cons_of_named named given, recordRest_cons_of_named namedAlso given]
        exact toOption_bind_congr (sameValue field named record) fun _ => later _ _

/-- A record that the later members do not complete is not completed at all. -/
theorem toOption_recordRest_cons_eq_none {member : String × Json}
    (later : ∀ more record, (∀ name ∈ seen, name ∈ more) →
      (recordRest fields o more record rest).toOption = none) :
    (recordRest fields o seen record (member :: rest)).toOption = none := by
  obtain ⟨name, value⟩ := member
  cases named : fields.find? (·.isNamed name) with
  | none =>
      rw [recordRest_cons_of_unnamed named]
      exact later seen record fun _ => id
  | some field =>
      by_cases given : field.name ∈ seen
      · rw [recordRest_cons_of_seen named given]
        rfl
      · rw [recordRest_cons_of_named named given]
        exact toOption_bind_eq_none fun _ => later _ _ fun _ => List.mem_cons_of_mem _

/-- It does not matter in which order fields have been given. -/
theorem recordRest_congr_seen {other : List String} (same : ∀ name, name ∈ seen ↔ name ∈ other) :
    recordRest fields o seen record members = recordRest fields o other record members := by
  induction members generalizing seen other record with
  | nil =>
      have contains (name : String) : seen.contains name = other.contains name := by
        rw [List.contains_eq_mem, List.contains_eq_mem, decide_eq_decide]
        exact same name
      simp only [recordRest_nil, contains]
  | cons member rest ih =>
      obtain ⟨name, value⟩ := member
      cases named : fields.find? (·.isNamed name) with
      | none =>
          rw [recordRest_cons_of_unnamed named, recordRest_cons_of_unnamed named]
          exact ih same
      | some field =>
          by_cases given : field.name ∈ seen
          · rw [recordRest_cons_of_seen named given,
              recordRest_cons_of_seen named ((same _).1 given)]
          · rw [recordRest_cons_of_named named given,
              recordRest_cons_of_named named fun listed => given ((same _).2 listed)]
            refine congrArg _ (funext fun _ => ih fun other => ?_)
            rw [List.mem_cons, List.mem_cons, same]

/-- A record of which a field has been given is not completed by giving the
field again. -/
theorem recordRest_eq_none_of_seen (named : fields.find? (·.isNamed name) = some field)
    (given : field.name ∈ seen) (listed : name ∈ Members.names members) :
    (recordRest fields o seen record members).toOption = none := by
  induction members generalizing seen record with
  | nil => cases listed
  | cons member rest ih =>
      obtain ⟨other, value⟩ := member
      rcases List.mem_cons.1 listed with same | later
      · cases same
        rw [recordRest_cons_of_seen named given]
        rfl
      · exact toOption_recordRest_cons_eq_none fun _ _ kept => ih (kept _ given) later

theorem recordRest_cons_eq_none_of_again {again : String}
    (named : fields.find? (·.isNamed name) = some field)
    (also : fields.find? (·.isNamed again) = some field)
    (later : again ∈ Members.names rest) :
    (recordRest fields o seen record ((name, value) :: rest)).toOption = none := by
  by_cases before : field.name ∈ seen
  · rw [recordRest_cons_of_seen named before]
    rfl
  · rw [recordRest_cons_of_named named before]
    exact toOption_bind_eq_none fun _ =>
      recordRest_eq_none_of_seen also List.mem_cons_self later

/-- A field is not given under two names. -/
theorem recordRest_eq_none_of_twice {other : String}
    (named : fields.find? (·.isNamed name) = some field)
    (also : fields.find? (·.isNamed other) = some field) (different : name ≠ other)
    (listed : name ∈ Members.names members) (listedAlso : other ∈ Members.names members) :
    (recordRest fields o seen record members).toOption = none := by
  induction members generalizing seen record with
  | nil => cases listed
  | cons member rest ih =>
      obtain ⟨first, value⟩ := member
      rcases List.mem_cons.1 listed with rfl | later
      · exact recordRest_cons_eq_none_of_again named also
          ((List.mem_cons.1 listedAlso).resolve_left different.symm)
      · rcases List.mem_cons.1 listedAlso with rfl | laterAlso
        · exact recordRest_cons_eq_none_of_again also named later
        · exact toOption_recordRest_cons_eq_none fun _ _ _ => ih later laterAlso

/-! ## Members in another order -/

/-- A member that gives no field can stand anywhere. -/
theorem recordRest_swap_of_unnamed (unnamed : fields.find? (·.isNamed name) = none)
    (member : String × Json) :
    (recordRest fields o seen record ((name, value) :: member :: rest)).toOption =
      (recordRest fields o seen record (member :: (name, value) :: rest)).toOption := by
  rw [recordRest_cons_of_unnamed unnamed]
  refine toOption_recordRest_cons_congr rfl (fun _ _ _ => rfl) fun _ _ => ?_
  rw [recordRest_cons_of_unnamed unnamed]

theorem recordRest_swap_of_named (commutes : fields.Pairwise RecordField.Commutes)
    {other : String} {given : Json} {first second : RecordField ε σ}
    (named : fields.find? (·.isNamed name) = some first)
    (also : fields.find? (·.isNamed other) = some second) :
    (recordRest fields .value seen record ((name, value) :: (other, given) :: rest)).toOption =
      (recordRest fields .value seen record
        ((other, given) :: (name, value) :: rest)).toOption := by
  by_cases before : first.name ∈ seen
  · rw [recordRest_eq_none_of_seen named before (by simp [Members.names]),
      recordRest_eq_none_of_seen named before (by simp [Members.names])]
  by_cases beforeAlso : second.name ∈ seen
  · rw [recordRest_eq_none_of_seen also beforeAlso (by simp [Members.names]),
      recordRest_eq_none_of_seen also beforeAlso (by simp [Members.names])]
  rw [recordRest_cons_of_named named before, recordRest_cons_of_named also beforeAlso]
  by_cases same : first.name = second.name
  · -- Whichever is read second finds the field given.
    rw [toOption_bind_eq_none fun _ => recordRest_eq_none_of_seen also
        (List.mem_cons.2 (.inl same.symm)) List.mem_cons_self,
      toOption_bind_eq_none fun _ => recordRest_eq_none_of_seen named
        (List.mem_cons.2 (.inl same)) List.mem_cons_self]
  · have apart : first.Commutes second :=
      commutes.forall (List.mem_of_find?_eq_some named) (List.mem_of_find?_eq_some also)
        fun equal => same (equal ▸ rfl)
    have behind : second.name ∉ first.name :: seen :=
      List.not_mem_cons_of_ne_of_not_mem (fun equal => same equal.symm) beforeAlso
    have behindAlso : first.name ∉ second.name :: seen :=
      List.not_mem_cons_of_ne_of_not_mem same before
    simp only [recordRest_cons_of_named also behind,
      recordRest_cons_of_named named behindAlso, ← bind_assoc]
    refine toOption_bind_congr (apart value given record) fun _ => ?_
    rw [recordRest_congr_seen fun _ => (List.Perm.swap _ _ seen).mem_iff]

/-- Two members that stand next to each other can change places. -/
theorem recordRest_swap (commutes : fields.Pairwise RecordField.Commutes)
    (first second : String × Json) :
    (recordRest fields .value seen record (first :: second :: rest)).toOption =
      (recordRest fields .value seen record (second :: first :: rest)).toOption := by
  cases named : fields.find? (·.isNamed first.1) with
  | none => exact recordRest_swap_of_unnamed named second
  | some _ =>
      cases also : fields.find? (·.isNamed second.1) with
      | none => exact (recordRest_swap_of_unnamed also first).symm
      | some _ => exact recordRest_swap_of_named commutes named also

/-- The order of the members of a record does not matter. -/
theorem recordRest_perm (commutes : fields.Pairwise RecordField.Commutes)
    {first second : List (String × Json)} (rearranged : first.Perm second) :
    (recordRest fields .value seen record first).toOption =
      (recordRest fields .value seen record second).toOption := by
  induction rearranged generalizing seen record with
  | nil => rfl
  | cons member _ ih =>
      exact toOption_recordRest_cons_congr rfl (fun _ _ _ => rfl) fun _ _ => ih
  | swap first second rest => exact recordRest_swap commutes second first
  | trans _ _ ih ihNext => exact ih.trans ihNext

/-! ## Other members and elements -/

/-- Two members do the same to every record. -/
def SameMember (fields : List (RecordField ε σ)) (first second : String × Json) : Prop :=
  fields.find? (·.isNamed first.1) = fields.find? (·.isNamed second.1) ∧
    ∀ field, fields.find? (·.isNamed first.1) = some field → ∀ record,
      (field.set .value (Reading.ofJson first.2) record).toOption =
        (field.set .value (Reading.ofJson second.2) record).toOption

theorem recordRest_congr {others : List (String × Json)}
    (same : List.Forall₂ (SameMember fields) members others) :
    (recordRest fields .value seen record members).toOption =
      (recordRest fields .value seen record others).toOption := by
  induction same generalizing seen record with
  | nil => rfl
  | cons first _ ih => exact toOption_recordRest_cons_congr first.1 first.2 fun _ _ => ih

theorem recordItems_congr {front back : List Json} {other : Json}
    (same : ∀ field, fields[front.length]? = some field → ∀ record,
      (field.set .value (Reading.ofJson value) record).toOption =
        (field.set .value (Reading.ofJson other) record).toOption) :
    (recordItems .value true fields record (Reading.ofItems (front ++ value :: back))).toOption =
      (recordItems .value true fields record
        (Reading.ofItems (front ++ other :: back))).toOption := by
  induction front generalizing fields record with
  | nil =>
      cases fields with
      | nil => rfl
      | cons field later => exact toOption_bind_congr (same field rfl record) fun _ => rfl
  | cons first front ih =>
      cases fields with
      | nil => rfl
      | cons field later => exact toOption_bind_congr rfl fun _ => ih same

/-! ## Parts of a record that is accepted -/

/-- The members that give a field are accepted together with the record. -/
theorem exists_set_of_recordRest_eq_ok {result : σ}
    (decoded : recordRest fields o seen record members = .ok result)
    (listed : (name, value) ∈ members) (named : fields.find? (·.isNamed name) = some field) :
    ∃ before after, field.set o (Reading.ofJson value) before = .ok after := by
  induction members generalizing seen record with
  | nil => cases listed
  | cons member rest ih =>
      obtain ⟨other, held⟩ := member
      cases found : fields.find? (·.isNamed other) with
      | none =>
          rw [recordRest_cons_of_unnamed found] at decoded
          rcases List.mem_cons.1 listed with same | later
          · cases same
            rw [named] at found
            cases found
          · exact ih decoded later
      | some also =>
          by_cases given : also.name ∈ seen
          · rw [recordRest_cons_of_seen found given] at decoded
            cases decoded
          · rw [recordRest_cons_of_named found given] at decoded
            rcases bind_eq_ok.1 decoded with ⟨between, put, continued⟩
            rcases List.mem_cons.1 listed with same | later
            · cases same
              rw [named] at found
              cases found
              exact ⟨record, between, put⟩
            · exact ih continued later

/-- The elements of a list are accepted together with the record. -/
theorem exists_set_of_recordItems_eq_ok {items : List Json} {result : σ}
    (decoded : recordItems o true fields record (Reading.ofItems items) = .ok result)
    {position : Nat} (placed : items[position]? = some value) :
    ∃ field, fields[position]? = some field ∧
      ∃ before after, field.set o (Reading.ofJson value) before = .ok after := by
  induction items generalizing fields record position with
  | nil => cases placed
  | cons item rest ih =>
      cases fields with
      | nil => cases decoded
      | cons field later =>
          rcases bind_eq_ok.1 decoded with ⟨between, put, continued⟩
          cases position with
          | zero =>
              cases placed
              exact ⟨field, rfl, record, between, put⟩
          | succ position => exact ih continued placed

/-! ## Records from texts and from values -/

theorem toOption_recordRest_of_portable (portable : ∀ field ∈ fields, field.Portable)
    (admits : o.Admits (Json.depthMembers members)) :
    (recordRest fields o seen record members).toOption =
      (recordRest fields .value seen record members).toOption := by
  induction members generalizing seen record with
  | nil => rfl
  | cons member rest ih =>
      rcases Origin.admits_max.1 admits with ⟨first, later⟩
      refine toOption_recordRest_cons_congr rfl (fun field named record => ?_) fun _ _ => ih later
      exact portable field (List.mem_of_find?_eq_some named) record first

theorem toOption_recordItems_of_portable (portable : ∀ field ∈ fields, field.Portable)
    {items : List Json} (admits : o.Admits (Json.depthItems items)) :
    (recordItems o true fields record (Reading.ofItems items)).toOption =
      (recordItems .value true fields record (Reading.ofItems items)).toOption := by
  induction items generalizing fields record with
  | nil => cases fields <;> rfl
  | cons item rest ih =>
      rcases Origin.admits_max.1 admits with ⟨first, later⟩
      cases fields with
      | nil => rfl
      | cons field others =>
          rcases List.forall_mem_cons.1 portable with ⟨own, following⟩
          exact toOption_bind_congr (own record first) fun _ => ih following later

/-- A record of portable fields is portable. -/
theorem portable_record (portable : ∀ field ∈ fields, field.Portable) (start : σ) :
    Portable (Decode.record fields start) := by
  intro o document admits
  cases document with
  | null | bool truth | num number | str text => rfl
  | arr items =>
      rw [record_arr, record_arr]
      exact toOption_enter_congr admits fun _ admits =>
        toOption_recordItems_of_portable portable admits
  | obj members =>
      rw [record_obj, record_obj]
      exact toOption_enter_congr admits fun _ admits =>
        toOption_recordRest_of_portable portable admits

end Decode

end CriteriaSearch
