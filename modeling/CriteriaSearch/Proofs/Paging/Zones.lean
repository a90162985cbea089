import CriteriaSearch.Paging.Basic
import CriteriaSearch.Proofs.Compilation.Clauses
import Mathlib.Tactic.ByContra

namespace CriteriaSearch

/-!
# The zone that a request is meant in

A request names a time zone or leaves it open, and a blank name leaves it open.
The default stands in then, and where that is missing or blank the local zone.
So one name is chosen before anything is compiled, and a request whose chosen
name is not known is refused with it, dates or no dates.

A known name holds no white space, hence choosing it once more changes nothing.
The local zone is taken as it is, without a look at the known names.  It is one
of them as long as the environment names one, and only under this condition is
every zone known that gets into a query.
-/

/-! ## Known names -/

/-- A character that is written in visible ASCII is no white space.  The bytes
of any other character start with one that is too large. -/
theorem Text.isBlankChar_of_visible {c : Char}
    (visible : ∀ byte ∈ String.utf8EncodeChar c, 33 ≤ byte.toNat ∧ byte.toNat ≤ 126) :
    isBlankChar c = false := by
  have ascii : c.toNat ≤ 127 := by
    by_contra beyond
    have first : ∃ byte ∈ String.utf8EncodeChar c, 192 ≤ byte.toNat := by
      unfold String.utf8EncodeChar
      simp only [show ¬ c.val.toNat ≤ 127 from beyond, if_false]
      split
      · refine ⟨_, List.mem_cons_self, ?_⟩
        rw [UInt8.toNat_ofNat']
        omega
      · split
        · refine ⟨_, List.mem_cons_self, ?_⟩
          rw [UInt8.toNat_ofNat']
          omega
        · refine ⟨_, List.mem_cons_self, ?_⟩
          rw [UInt8.toNat_ofNat']
          omega
    rcases first with ⟨byte, member, large⟩
    have small := (visible byte member).2
    omega
  have single : String.utf8EncodeChar c = [UInt8.ofNat c.toNat] := by
    unfold String.utf8EncodeChar
    exact if_pos ascii
  rw [single] at visible
  have bounds := visible _ List.mem_cons_self
  rw [UInt8.toNat_ofNat'] at bounds
  simp [isBlankChar]
  omega

theorem Text.trimmed_eq_self {s : String} (said : ∀ c ∈ s.toList, isBlankChar c = false) :
    trimmed s = s := by
  have kept {cs : List Char} (each : ∀ c ∈ cs, isBlankChar c = false) :
      cs.dropWhile isBlankChar = cs := by
    cases cs with
    | nil => rfl
    | cons c rest => exact List.dropWhile_cons_of_neg (by simp [each c List.mem_cons_self])
  have reversed : ∀ c ∈ s.toList.reverse, isBlankChar c = false := fun c member =>
    said c (List.mem_reverse.mp member)
  rw [trimmed, trim, trimStart, kept said, trimEnd, kept reversed, List.reverse_reverse,
    String.ofList_toList]

namespace TimeZone

/-- The bytes of known names are looked at, since they are much cheaper to come
by than the characters. -/
private theorem visible_names :
    names.all (fun name => name ≠ "" && name.toByteArray.data.toList.all fun byte =>
      Nat.ble 33 byte.toNat && Nat.ble byte.toNat 126) = true := by
  decide +kernel

theorem ne_empty_of_mem_names {name : String} (known : name ∈ names) : name ≠ "" := by
  have each := List.all_eq_true.mp visible_names name known
  rw [Bool.and_eq_true, decide_eq_true_eq] at each
  exact each.1

/-- Known names have no white space around them. -/
theorem trimmed_of_mem_names {name : String} (known : name ∈ names) : Text.trimmed name = name := by
  have each := List.all_eq_true.mp visible_names name known
  rw [Bool.and_eq_true, ← String.utf8Encode_toList, List.utf8Encode, List.all_eq_true] at each
  apply Text.trimmed_eq_self
  intro c member
  apply Text.isBlankChar_of_visible
  intro byte written
  have visible := each.2 byte (by simpa using ⟨c, member, written⟩)
  simpa using visible

/-- The environment names the local zone, behind any number of colons. -/
theorem localName_of_mem_names {value zone : String}
    (stripped : value.toList.dropWhile (· = ':') = zone.toList) (known : zone ∈ names)
    (system : String) : localName (some value) system = zone := by
  simp only [localName, stripped, String.ofList_toList]
  exact if_pos (List.contains_iff_mem.mpr known)

end TimeZone

/-! ## Names that are asked for -/

/-- The time zone that a request names, by itself or through the default.  A
blank name counts as none. -/
def Paging.zoneName? (paging : Paging) (default : Option String) : Option String :=
  (named paging.timeZone).or (named default)
where
  named (name : Option String) : Option String := (name.map Text.trimmed).filter (· ≠ "")

namespace Paging

variable (paging : Paging) (default : Option String) (localZone : String)

private theorem trimmed_eq_empty_iff (name : String) :
    Text.trimmed name = "" ↔ Text.blank name = true := by
  rw [Text.trimmed, Text.blank, ← Text.trim_eq_nil_iff, String.ofList_eq_empty_iff]

private theorem named_some_of_blank {name : String} (blank : Text.blank name = true) :
    zoneName?.named (some name) = none := by
  simp [zoneName?.named, (trimmed_eq_empty_iff name).mpr blank]

private theorem named_some_of_not_blank {name : String} (said : ¬ Text.blank name = true) :
    zoneName?.named (some name) = some (Text.trimmed name) := by
  simp [zoneName?.named, mt (trimmed_eq_empty_iff name).mp said]

private theorem resolve_eq (name : Option String) :
    TimeZone.resolve localZone name =
      match zoneName?.named name with
      | none => .ok localZone
      | some wanted => if TimeZone.isKnown wanted then .ok wanted else .error wanted := by
  cases name with
  | none => rfl
  | some name =>
      rw [TimeZone.resolve, Option.map_some]
      by_cases blank : Text.blank name = true
      · rw [named_some_of_blank blank]
        exact if_pos ((trimmed_eq_empty_iff name).mpr blank)
      · rw [named_some_of_not_blank blank]
        exact if_neg (mt (trimmed_eq_empty_iff name).mp blank)

/-- A request is meant in the zone that it names, if that is known, and in the
local zone if it names none. -/
theorem resolveZone_eq :
    paging.resolveZone default localZone =
      match paging.zoneName? default with
      | none => .ok localZone
      | some name => if TimeZone.isKnown name then .ok name else .error name := by
  have named : zoneName?.named ((paging.timeZone.filter fun name => !Text.blank name).or default) =
      paging.zoneName? default := by
    unfold zoneName?
    cases paging.timeZone with
    | none => rfl
    | some name =>
        by_cases blank : Text.blank name = true
        · rw [named_some_of_blank blank, Option.filter, blank]
          rfl
        · rw [named_some_of_not_blank blank, Option.filter, Bool.eq_false_iff.mpr blank]
          exact named_some_of_not_blank blank
  rw [resolveZone, resolve_eq, named]

/-- A request is compiled if the zone that it names is known. -/
theorem exists_compile_eq_ok (compiler : Compiler)
    (known : ∀ zone, paging.zoneName? default = some zone → zone ∈ TimeZone.names) :
    ∃ query, paging.compile compiler default localZone = .ok query := by
  rw [compile, resolveZone_eq]
  cases named : paging.zoneName? default with
  | none => exact ⟨_, rfl⟩
  | some zone =>
      have listed : TimeZone.isKnown zone = true := List.contains_iff_mem.mpr (known zone named)
      simp only [if_pos listed]
      exact ⟨_, rfl⟩

end Paging

/-! ## The zone that is chosen -/

/-- The time zone that a clause itself carries. -/
def Query.zone? : Query → Option String
  | .range clause => clause.timeZone
  | _ => none

theorem Query.zone?_of_undated {query : Query} (undated : query.isDated = false) :
    query.zone? = none := by
  cases query with
  | range clause =>
      rw [isDated, Bool.or_eq_false_iff] at undated
      exact Option.isNone_iff_eq_none.mp (Option.isSome_eq_false_iff.mp undated.2)
  | _ => rfl

/-- The zones in a compiled query, at any depth: that of the dates, where there
are any. -/
theorem Compiler.zones_compile (compiler : Compiler) (conditions : List Condition)
    (window : DateWindow) {zone : String} (named : zone ≠ "") (localZone : String) :
    (Query.bool (compiler.compile conditions window (some zone) localZone)).parts.filterMap
        Query.zone? = if window.isSet then [zone] else [] := by
  rcases compiler.parts_compile conditions window (some zone) localZone with ⟨rest, plain, parts⟩
  have effective : effectiveZone (some zone) localZone = zone := if_neg named
  have undated : (rest.flatMap Query.parts).filterMap Query.zone? = [] := by
    rw [List.filterMap_eq_nil_iff]
    intro part among
    rcases List.mem_flatMap.mp among with ⟨clause, member, inside⟩
    exact Query.zone?_of_undated (plain clause member part inside).2
  rw [parts, effective, List.filterMap_cons_none rfl, List.filterMap_append, undated,
    List.append_nil, dateClauses]
  split <;> rfl

namespace Paging

variable (paging : Paging) (default : Option String) (localZone : String)

/-- The zone that a request names or takes from the default, and the local zone
where both leave it open. -/
def chosenZone : String :=
  (paging.zoneName? default).getD localZone

private theorem named_of_mem_names {zone : String} (known : zone ∈ TimeZone.names) :
    zoneName?.named (some zone) = some zone := by
  simp [zoneName?.named, TimeZone.trimmed_of_mem_names known, TimeZone.ne_empty_of_mem_names known]

private theorem named_named {name : Option String} {zone : String}
    (named : zoneName?.named name = some zone) : zoneName?.named (some zone) = some zone := by
  rw [zoneName?.named, Option.filter_eq_some_iff, Option.map_eq_some_iff] at named
  rcases named with ⟨⟨given, -, rfl⟩, said⟩
  have again : Text.trimmed (Text.trimmed given) = Text.trimmed given := by
    rw [Text.trimmed, Text.trimmed, String.toList_ofList, Text.trim_trim]
  rw [zoneName?.named, Option.map_some, again]
  exact Option.filter_some_pos said

variable {localZone}

/-- A chosen zone names itself. -/
theorem named_chosenZone (known : localZone ∈ TimeZone.names) :
    zoneName?.named (some (paging.chosenZone default localZone)) =
      some (paging.chosenZone default localZone) := by
  unfold chosenZone
  cases zone : paging.zoneName? default with
  | none => exact named_of_mem_names known
  | some name =>
      rw [zoneName?, Option.or_eq_some_iff] at zone
      rcases zone with named | ⟨-, named⟩
      · exact named_named named
      · exact named_named named

/-- The chosen zone decides whether a request is compiled. -/
theorem compile_eq_of_known (compiler : Compiler) (known : localZone ∈ TimeZone.names) :
    paging.compile compiler default localZone =
      if paging.chosenZone default localZone ∈ TimeZone.names then
        .ok (compiler.compile paging.conditions paging.dates
          (some (paging.chosenZone default localZone)) localZone)
      else .error (paging.chosenZone default localZone) := by
  rw [compile, resolveZone_eq, chosenZone]
  cases paging.zoneName? default with
  | none => exact (if_pos known).symm
  | some name =>
      simp only [TimeZone.isKnown, List.contains_iff_mem, Option.getD_some]
      split <;> rfl

/-- A request is meant in a zone.  It is refused with the name of the zone if
that is not known, and otherwise its dates, and nothing else in its query, have
the zone.  A request that names the zone itself is not told from it. -/
structure MeantIn (compiler : Compiler) (localZone zone : String) : Prop where
  refused_iff (name : String) :
    paging.compile compiler default localZone = .error name ↔
      name = zone ∧ zone ∉ TimeZone.names
  compiled (known : zone ∈ TimeZone.names) :
    ∃ query, paging.compile compiler default localZone = .ok query ∧
      (paging.dates.isSet = true →
        query.must.head? = some (compiler.dateClause paging.dates zone)) ∧
      (Query.bool query).parts.filterMap Query.zone? = if paging.dates.isSet then [zone] else []
  again (other : Option String) :
    ({ paging with timeZone := some zone } : Paging).compile compiler other localZone =
      paging.compile compiler default localZone

theorem meantIn_chosenZone (compiler : Compiler) (known : localZone ∈ TimeZone.names) :
    paging.MeantIn default compiler localZone (paging.chosenZone default localZone) where
  refused_iff name := by
    rw [paging.compile_eq_of_known default compiler known]
    split
    · next listed => simp [listed]
    · next unlisted => simp [unlisted, eq_comm]
  compiled listed := by
    have said := TimeZone.ne_empty_of_mem_names listed
    refine ⟨_, (paging.compile_eq_of_known default compiler known).trans (if_pos listed), ?_, ?_⟩
    · intro set
      have must := compiler.bucket_compile paging.conditions paging.dates
        (some (paging.chosenZone default localZone)) localZone .must
      rw [Buckets.bucket, if_pos rfl, Compiler.dateClauses, if_pos set, Compiler.effectiveZone,
        if_neg said] at must
      rw [must]
      rfl
    · exact compiler.zones_compile paging.conditions paging.dates said localZone
  again other := by
    have same : chosenZone { paging with timeZone := some (paging.chosenZone default localZone) }
        other localZone = paging.chosenZone default localZone := by
      rw [chosenZone, zoneName?, named_chosenZone paging default known]
      rfl
    rw [compile_eq_of_known _ _ _ known, compile_eq_of_known _ _ _ known, same]

/-- A name in the request leaves nothing to the default. -/
theorem compile_eq_of_named (compiler : Compiler) {name : String}
    (given : paging.timeZone = some name) (said : Text.blank name = false) (other : Option String) :
    paging.compile compiler other localZone = paging.compile compiler default localZone := by
  have requested : zoneName?.named paging.timeZone = some (Text.trimmed name) := by
    rw [given]
    exact named_some_of_not_blank (by simp [said])
  have first (any : Option String) : paging.zoneName? any = some (Text.trimmed name) := by
    rw [zoneName?, requested]
    rfl
  rw [compile, compile, resolveZone_eq, resolveZone_eq, first, first]

end Paging

/-- What a name asks for is known, and it asks for itself. -/
theorem TimeZone.resolve_resolve {localZone : String} (known : localZone ∈ names)
    {name : Option String} {zone : String} (resolved : resolve localZone name = .ok zone) :
    zone ∈ names ∧ resolve localZone (some zone) = .ok zone := by
  have listed : zone ∈ names := by
    rw [Paging.resolve_eq] at resolved
    split at resolved
    · cases resolved
      exact known
    · split at resolved
      · next found =>
          cases resolved
          exact List.contains_iff_mem.mp found
      · cases resolved
  refine ⟨listed, ?_⟩
  rw [Paging.resolve_eq, Paging.named_of_mem_names listed]
  exact if_pos (List.contains_iff_mem.mpr listed)

/-- A request is compiled in one zone, chosen from its own name, the default
and the local zone, in this order.  The name of the chosen zone is known, or it
is what the request is refused with.  A default that is not known is no
obstacle to a request with a name of its own, and what a name is resolved to
is resolved to itself. -/
theorem Paging.meant_in_one_zone {value zone : String}
    (stripped : value.toList.dropWhile (· = ':') = zone.toList) (known : zone ∈ TimeZone.names)
    (system : String) (paging : Paging) (compiler : Compiler) (default : Option String) :
    let localZone := TimeZone.localName (some value) system
    paging.MeantIn default compiler localZone (paging.chosenZone default localZone) ∧
      (∀ name, paging.timeZone = some name → Text.blank name = false →
        ∀ other, paging.compile compiler other localZone =
          paging.compile compiler default localZone) ∧
      ∀ name result, TimeZone.resolve localZone name = .ok result →
        result ∈ TimeZone.names ∧ TimeZone.resolve localZone (some result) = .ok result := by
  intro localZone
  have listed : localZone ∈ TimeZone.names := by
    rwa [show localZone = zone from TimeZone.localName_of_mem_names stripped known system]
  refine ⟨paging.meantIn_chosenZone default compiler listed, ?_, ?_⟩
  · intro name given said other
    exact paging.compile_eq_of_named default compiler given said other
  · intro name result resolved
    exact TimeZone.resolve_resolve listed resolved

/-- A padded name in the request goes before a default that is not known.
Without it the request is refused for the default. -/
theorem Paging.meant_in_one_zone_padded :
    let dates : DateWindow := { field := "createAt", start := "2020-06-01", stop := "2020-07-10" }
    let padded : Paging := { dates, timeZone := some " Africa/Cairo " }
    let default := some "Mars/Olympus_Mons"
    let localZone := TimeZone.localName (some ":Africa/Nairobi") "Europe/Vienna"
    ":Africa/Nairobi".toList.dropWhile (· = ':') = "Africa/Nairobi".toList ∧
      "Africa/Nairobi" ∈ TimeZone.names ∧
      (∃ query, padded.compile {} default localZone = .ok query ∧
        (Query.bool query).parts.filterMap Query.zone? = ["Africa/Cairo"]) ∧
      ({ dates } : Paging).compile {} default localZone = .error "Mars/Olympus_Mons" := by
  intro dates padded default localZone
  have stripped : ":Africa/Nairobi".toList.dropWhile (· = ':') = "Africa/Nairobi".toList := by
    decide +kernel
  have known : "Africa/Nairobi" ∈ TimeZone.names := by decide +kernel
  have listed : "Africa/Cairo" ∈ TimeZone.names := by decide +kernel
  have unknown : "Mars/Olympus_Mons" ∉ TimeZone.names := by decide +kernel
  have named : padded.chosenZone default localZone = "Africa/Cairo" := by decide +kernel
  have left : ({ dates } : Paging).chosenZone default localZone = "Mars/Olympus_Mons" := by
    decide +kernel
  have meant (paging : Paging) :=
    (meant_in_one_zone stripped known "Europe/Vienna" paging {} default).1
  refine ⟨stripped, known, ?_, ?_⟩
  · rcases (named ▸ meant padded).compiled listed with ⟨query, compiled, -, zones⟩
    exact ⟨query, compiled, zones⟩
  · exact ((meant { dates }).refused_iff _).mpr ⟨left.symm, left.symm ▸ unknown⟩

end CriteriaSearch
