import CriteriaSearch.Proofs.Json.Documents

namespace CriteriaSearch

/-!
# What is decoded, whatever the problem would be

A document can have several problems at once, and which of them is reported
depends on where the decoder begins and on whether it reads a text or a value.
Only what is decoded is compared here, and all problems are alike.  In this
sense a decoder is portable if it does the same to a text as to a value, and
orderly if the value that a document is parsed to is as good as the document.
The decoders of single values have both properties, and so have those of the
lists and tables over them.
-/

namespace Decode

variable {ε α β : Type}

/-! ## Outcomes -/

theorem toOption_eq_some {outcome : Except ε α} {value : α} :
    outcome.toOption = some value ↔ outcome = .ok value := by
  cases outcome with
  | error problem => exact ⟨nofun, nofun⟩
  | ok held =>
      rw [Except.ok.injEq]
      exact Option.some_inj

theorem toOption_eq_iff {first second : Except ε α} :
    first.toOption = second.toOption ↔ ∀ value, first = .ok value ↔ second = .ok value := by
  rw [Option.ext_iff]
  exact forall_congr' fun value => iff_congr toOption_eq_some toOption_eq_some

theorem toOption_bind_congr {first second : Except ε α} {next following : α → Except ε β}
    (begun : first.toOption = second.toOption)
    (continued : ∀ value, (next value).toOption = (following value).toOption) :
    (first >>= next).toOption = (second >>= following).toOption := by
  cases first with
  | error problem =>
      cases second with
      | error other => rfl
      | ok value => cases begun
  | ok value =>
      cases second with
      | error other => cases begun
      | ok other =>
          cases begun
          exact continued value

theorem toOption_map_congr {first second : Except ε α} (f : α → β)
    (same : first.toOption = second.toOption) :
    (first.map f).toOption = (second.map f).toOption :=
  toOption_bind_congr same fun _ => rfl

/-- Nothing comes of steps that end in a problem. -/
theorem toOption_bind_eq_none {first : Except ε α} {next : α → Except ε β}
    (fails : ∀ value, (next value).toOption = none) : (first >>= next).toOption = none := by
  cases first with
  | error problem => rfl
  | ok value => exact fails value

/-- A container is opened before its contents are compared. -/
theorem toOption_enter_congr {o : Origin} {depth : Nat} (admits : o.Admits (depth + 1))
    {next following : Origin → Except (DecodeError ε) β}
    (inside : ∀ inner : Origin, inner.Admits depth →
      (next inner).toOption = (following .value).toOption) :
    (o.enter >>= next).toOption = (Origin.value.enter >>= following).toOption := by
  rcases admits.enter with ⟨inner, entered, admits⟩
  rw [entered]
  exact inside inner admits

/-! ## Lists -/

/-- Elements of which the same is decoded can stand for each other. -/
theorem toOption_list_congr {decode : Decoder ε α} {items others : List Json}
    (same : List.Forall₂ (fun item other => (decode .value (Reading.ofJson item)).toOption =
      (decode .value (Reading.ofJson other)).toOption) items others) :
    (list decode .value (Reading.ofJson (.arr items))).toOption =
      (list decode .value (Reading.ofJson (.arr others))).toOption := by
  have inside : (elements decode .value (Reading.ofItems items)).toOption =
      (elements decode .value (Reading.ofItems others)).toOption := by
    induction same with
    | nil => rfl
    | cons first _ ih =>
        exact toOption_bind_congr first fun _ => toOption_bind_congr ih fun _ => rfl
  change (elements decode .value (Reading.ofItems items) >>= _).toOption =
    (elements decode .value (Reading.ofItems others) >>= _).toOption
  exact toOption_bind_congr inside fun _ => rfl

/-- The elements of a list are accepted together with it. -/
theorem exists_of_list_eq_ok {decode : Decoder ε α} {items : List Json} {values : List α}
    (decoded : list decode .value (Reading.ofJson (.arr items)) = .ok values) {item : Json}
    (listed : item ∈ items) : ∃ value, decode .value (Reading.ofJson item) = .ok value := by
  rcases bind_eq_ok.1 decoded with ⟨o, entered, opened⟩
  cases entered
  rcases bind_eq_ok.1 opened with ⟨read, inside, -⟩
  rw [elements_eq_ok, Reading.ofItems_eq_map, List.forall₂_map_left_iff] at inside
  exact exists_forall₂_iff.1 ⟨read, inside⟩ item listed

/-! ## Portable decoders -/

/-- What is decoded from a document does not depend on where it comes from, if
a text may nest so deep. -/
def Portable (decode : Decoder ε α) : Prop :=
  ∀ ⦃o : Origin⦄ ⦃document : Json⦄, o.Admits document.depth →
    (decode o (Reading.ofJson document)).toOption =
      (decode .value (Reading.ofJson document)).toOption

theorem portable_string : Portable (string : Decoder ε String) := by
  intro o document _
  cases document <;> rfl

theorem portable_bool : Portable (bool : Decoder ε Bool) := by
  intro o document _
  cases document <;> rfl

theorem portable_integer (low high : Int) : Portable (integer low high : Decoder ε Int) := by
  intro o document _
  rcases document with _ | _ | (_ | _) | _ | _ | _ <;> rfl

theorem portable_json : Portable (json : Decoder ε Json) := by
  intro o document admits
  rw [json_ofJson_eq_sorted admits, json_ofJson_eq_sorted (o := .value) trivial]

theorem Portable.bind {decode : Decoder ε α} (portable : Portable decode)
    (next : α → Except (DecodeError ε) β) : Portable fun o r => decode o r >>= next :=
  fun _ _ admits => toOption_bind_congr (portable admits) fun _ => rfl

theorem Portable.nullable {decode : Decoder ε α} (portable : Portable decode) :
    Portable (Decode.nullable decode) := by
  intro o document admits
  cases document with
  | null => rfl
  | _ => exact toOption_map_congr some (portable admits)

theorem Portable.elements {decode : Decoder ε α} (portable : Portable decode) {o : Origin}
    {items : List Json} (admits : o.Admits (Json.depthItems items)) :
    (Decode.elements decode o (Reading.ofItems items)).toOption =
      (Decode.elements decode .value (Reading.ofItems items)).toOption := by
  induction items with
  | nil => rfl
  | cons item rest ih =>
      rcases Origin.admits_max.1 admits with ⟨first, later⟩
      exact toOption_bind_congr (portable first) fun _ =>
        toOption_bind_congr (ih later) fun _ => rfl

theorem Portable.list {decode : Decoder ε α} (portable : Portable decode) :
    Portable (Decode.list decode) := by
  intro o document admits
  cases document with
  | null | bool truth | num number | str text | obj members => rfl
  | arr items =>
      exact toOption_enter_congr admits fun inner admits =>
        toOption_bind_congr (portable.elements admits) fun _ => rfl

theorem Portable.entries {decode : Decoder ε α} (portable : Portable decode) {o : Origin}
    {members : List (String × Json)} (admits : o.Admits (Json.depthMembers members)) :
    (Decode.entries decode o (Reading.ofMembers members)).toOption =
      (Decode.entries decode .value (Reading.ofMembers members)).toOption := by
  induction members with
  | nil => rfl
  | cons member rest ih =>
      rcases Origin.admits_max.1 admits with ⟨first, later⟩
      exact toOption_bind_congr (portable first) fun _ =>
        toOption_bind_congr (ih later) fun _ => rfl

theorem Portable.table {decode : Decoder ε α} (portable : Portable decode) :
    Portable (Decode.table decode) := by
  intro o document admits
  cases document with
  | null | bool truth | num number | str text | arr items => rfl
  | obj members =>
      exact toOption_enter_congr admits fun inner admits =>
        toOption_bind_congr (portable.entries admits) fun _ => rfl

/-! ## Orderly decoders -/

/-- A document that uses no name twice is decoded as the value that it is
parsed to. -/
def Orderly (decode : Decoder ε α) : Prop :=
  ∀ ⦃document : Json⦄, document.Distinct →
    (decode .value (Reading.ofJson document)).toOption =
      (decode .value (Reading.ofJson document.sorted)).toOption

theorem orderly_string : Orderly (string : Decoder ε String) := by
  intro document _
  cases document <;> rfl

theorem orderly_bool : Orderly (bool : Decoder ε Bool) := by
  intro document _
  cases document <;> rfl

theorem orderly_integer (low high : Int) : Orderly (integer low high : Decoder ε Int) := by
  intro document _
  cases document <;> rfl

theorem orderly_json : Orderly (json : Decoder ε Json) := by
  intro document _
  rw [json_value_ofJson, json_value_ofJson,
    Json.sorted_of_canonical (Json.canonical_sorted document)]

theorem Orderly.bind {decode : Decoder ε α} (orderly : Orderly decode)
    (next : α → Except (DecodeError ε) β) : Orderly fun o r => decode o r >>= next :=
  fun _ distinct => toOption_bind_congr (orderly distinct) fun _ => rfl

theorem Orderly.nullable {decode : Decoder ε α} (orderly : Orderly decode) :
    Orderly (Decode.nullable decode) := by
  intro document distinct
  cases document with
  | null => rfl
  | _ => exact toOption_map_congr some (orderly distinct)

theorem Orderly.list {decode : Decoder ε α} (orderly : Orderly decode) :
    Orderly (Decode.list decode) := by
  intro document distinct
  cases document with
  | null | bool truth | num number | str text | obj members => rfl
  | arr items =>
      rw [Json.sorted, Json.sortedItems_eq_map]
      refine toOption_list_congr (List.forall₂_map_right_iff.2 (List.forall₂_same.2 ?_))
      exact fun item listed => orderly (Json.distinct_arr.1 distinct item listed)

theorem orderly_table_list_json :
    Orderly (Decode.table (list json) : Decoder ε (FieldMap (List Json))) := by
  intro document distinct
  have canonical := Json.canonical_sorted document
  refine toOption_eq_iff.2 fun table => ?_
  rw [table_list_json_eq_ok_of_distinct distinct, table_list_json_eq_ok canonical]

end Decode

end CriteriaSearch
