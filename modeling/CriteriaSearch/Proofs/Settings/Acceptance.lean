import CriteriaSearch.Backend.Client
import CriteriaSearch.Proofs.Json.Values
import Mathlib.Algebra.Order.Field.Rat
import Mathlib.Data.Rat.Lemmas
import Mathlib.Tactic.Linarith
import Mathlib.Tactic.NormNum

namespace CriteriaSearch

/-!
# Settings that a client accepts

Settings are looked at twice before anything is sent.  Validation reads them as
they stand, and a client is then built from their backend part.  Both ask for a
node, for an index that is not blank and for a timeout, but they mean different
timeouts.  Validation wants a finite number of seconds above zero.  A client
waits by a clock that counts nanoseconds in a bounded range, so it refuses what
rounds to no nanosecond at all, and what lies beyond the range.

A clock never counts a number that is not above zero, hence whatever a client
accepts passes validation, the number of workers apart.  The other direction
holds for timeouts within the range of the clock, and for no others.
-/

/-! ## Seconds and nanoseconds -/

namespace Binary64

/-- A quotient is rounded to zero up to one half, the half itself included. -/
theorem roundDiv_eq_zero_iff {n d : Nat} (positive : 0 < d) : roundDiv n d = 0 ↔ 2 * n ≤ d := by
  unfold roundDiv
  rcases Nat.lt_or_ge n d with below | above
  · rw [Nat.div_eq_of_lt below, Nat.mod_eq_of_lt below]
    grind
  · have whole : 0 < n / d := Nat.div_pos above positive
    grind

theorem roundDiv_num_den_eq_zero_iff {r : Rat} (nonneg : 0 ≤ r) :
    roundDiv r.num.natAbs r.den = 0 ↔ r ≤ 1 / 2 := by
  have num : (r.num.natAbs : Rat) = r.num := by
    have integer : (r.num.natAbs : Int) = r.num :=
      Int.natAbs_of_nonneg (Rat.num_nonneg.mpr nonneg)
    rw [← Int.cast_natCast, integer]
  have den : (0 : Rat) < r.den := Nat.cast_pos.mpr r.den_pos
  have halved : r ≤ 1 / 2 ↔ 2 * (r.num : Rat) ≤ r.den := by
    rw [← Rat.num_div_den r, div_le_div_iff₀ den two_pos, one_mul, mul_comm, Rat.num_div_den]
  rw [roundDiv_eq_zero_iff r.den_pos, halved, ← num, ← Nat.cast_le (α := Rat), Nat.cast_mul,
    Nat.cast_ofNat]

theorem magnitude_eq (x : Binary64) :
    x.magnitude = (x.parts.1 : Rat) * (2 : Rat) ^ x.parts.2 := rfl

theorem magnitude_nonneg (x : Binary64) : 0 ≤ x.magnitude :=
  mul_nonneg (Nat.cast_nonneg _) (Rat.zpow_pos two_pos).le

theorem magnitude_eq_zero_iff (x : Binary64) : x.magnitude = 0 ↔ x.position.val = 0 := by
  have unit : (2 : Rat) ^ x.parts.2 ≠ 0 := (Rat.zpow_pos two_pos).ne'
  rw [magnitude_eq, mul_eq_zero, or_iff_left unit, Nat.cast_eq_zero, parts]
  have room : 0 < binade := by decide
  split
  · rfl
  · next later =>
      have far : x.position.val ≠ 0 := by
        intro start
        rw [start, Nat.zero_div] at later
        exact later rfl
      dsimp only
      omega

/-- A number has its sign away from zero only. -/
theorem value_eq (x : Binary64) :
    x.value = if x.negative && x.position.val ≠ 0 then -x.magnitude else x.magnitude := by
  unfold value
  by_cases start : x.position.val = 0
  · rw [(magnitude_eq_zero_iff x).mpr start, neg_zero, ite_self, ite_self]
  · simp [start]

namespace Extended

/-- The exact value of a number that is finite. -/
def value? : Extended → Option Rat
  | .finite x => some x.value
  | .infinite _ | .notANumber => none

/-- Seconds that a clock can count in nanoseconds: there is at least one
nanosecond after rounding, and the seconds fit into a word. -/
def IsDuration (time : Extended) : Prop :=
  ∃ seconds, time.value? = some seconds ∧ 1 / 2000000000 < seconds ∧
    seconds < 18446744073709551616

theorem isPositive_iff (time : Extended) :
    time.isPositive = true ↔ ∃ seconds, time.value? = some seconds ∧ 0 < seconds := by
  cases time with
  | finite x =>
      have positive : 0 < x.magnitude ↔ x.position.val ≠ 0 := by
        rw [lt_iff_le_and_ne, ne_comm, Ne, magnitude_eq_zero_iff]
        exact and_iff_right x.magnitude_nonneg
      simp only [value?, Option.some.injEq, exists_eq_left', value_eq, isPositive]
      cases negative : x.negative with
      | true =>
          by_cases start : x.position.val = 0
          · simp [start, (magnitude_eq_zero_iff x).mpr start]
          · simpa [start] using x.magnitude_nonneg
      | false => simpa using positive.symm
  | infinite negative => simp [value?, isPositive]
  | notANumber => simp [value?, isPositive]

/-- A clock counts exactly the durations. -/
theorem exists_nanoseconds_iff (time : Extended) :
    (∃ count, time.nanoseconds? = some count ∧ count ≠ 0) ↔ time.IsDuration := by
  cases time with
  | finite x =>
      have nonneg := x.magnitude_nonneg
      simp only [IsDuration, value?, Option.some.injEq, exists_eq_left', value_eq, nanoseconds?]
      split
      · next below =>
          constructor
          · rintro ⟨count, none, -⟩
            cases none
          · rintro ⟨above, -⟩
            linarith
      · have late : ((UInt64.size : Nat) : Rat) = 18446744073709551616 := by norm_num [UInt64.size]
        rw [late]
        split
        · next beyond =>
            constructor
            · rintro ⟨count, none, -⟩
              cases none
            · rintro ⟨-, under⟩
              exact absurd under (not_lt.mpr beyond)
        · next under =>
            have exact : 0 ≤ x.magnitude * 1000000000 := mul_nonneg nonneg (by norm_num)
            simp only [Option.some.injEq, exists_eq_left', Ne,
              roundDiv_num_den_eq_zero_iff exact, not_le]
            rw [not_le] at under
            constructor
            · intro counted
              exact ⟨by linarith, under⟩
            · rintro ⟨counted, -⟩
              linarith
  | infinite negative => simp [IsDuration, value?, nanoseconds?]
  | notANumber => simp [IsDuration, value?, nanoseconds?]

theorem IsDuration.isPositive {time : Extended} (duration : time.IsDuration) :
    time.isPositive = true := by
  rcases duration with ⟨seconds, value, counted, -⟩
  exact (isPositive_iff time).mpr ⟨seconds, value, by linarith⟩

end Extended

end Binary64

/-! ## What both ask for -/

/-- There is a node, and the index has a name. -/
structure BackendSettings.Complete (settings : BackendSettings) : Prop where
  urls : settings.urls ≠ []
  index : Text.blank settings.index = false

/-- Settings that are complete up to a timeout above zero lack workers or
nothing. -/
theorem Settings.validate_of_positive {settings : Settings} (complete : settings.backend.Complete)
    (positive : settings.backend.requestTimeout.isPositive = true) :
    settings.validate =
      if settings.query.streamWorkers = 0 then .error .workersMissing else .ok () := by
  have urls : settings.backend.urls.isEmpty = false := List.isEmpty_eq_false_iff.mpr complete.urls
  simp [validate, urls, complete.index, positive]

theorem Settings.complete_of_validate {settings : Settings} (valid : settings.validate = .ok ()) :
    settings.backend.Complete := by
  unfold validate at valid
  split at valid
  · cases valid
  · next urls =>
      split at valid
      · cases valid
      · next index => exact ⟨by simpa using urls, by simpa using index⟩

namespace Client

/-- The nodes are read from their texts one by one, in their order. -/
theorem mapM_node_eq_ok_iff {given : List String} {nodes : List Url} :
    given.mapM node = .ok nodes ↔
      List.Forall₂ (fun text url => node text = .ok url) given nodes := by
  induction given generalizing nodes with
  | nil =>
      rw [List.mapM_nil, List.forall₂_nil_left_iff]
      exact ⟨fun made => (Except.ok.inj made).symm, fun none => congrArg Except.ok none.symm⟩
  | cons text rest ih =>
      rw [List.mapM_cons, List.forall₂_cons_left_iff]
      constructor
      · intro made
        cases first : node text with
        | error problem =>
            rw [first] at made
            cases made
        | ok url =>
            cases later : rest.mapM node with
            | error problem =>
                rw [first, later] at made
                cases made
            | ok urls =>
                rw [first, later] at made
                cases made
                exact ⟨url, urls, rfl, ih.mp later, rfl⟩
      · rintro ⟨url, urls, first, later, rfl⟩
        rw [first, ih.mpr later]
        rfl

variable {settings : BackendSettings}

/-- Complete settings are refused for their timeout before any node is read. -/
theorem ofSettings_of_not_isDuration (complete : settings.Complete)
    (endless : ¬ settings.requestTimeout.IsDuration) :
    ofSettings settings = .error (.badTimeout settings.requestTimeout) := by
  rw [← Binary64.Extended.exists_nanoseconds_iff] at endless
  unfold ofSettings
  rw [dif_neg complete.urls, complete.index]
  cases counted : settings.requestTimeout.nanoseconds? with
  | none => rfl
  | some count =>
      cases count with
      | zero => rfl
      | succ count => exact absurd ⟨count + 1, counted, Nat.succ_ne_zero count⟩ endless

theorem exists_ofSettings_of_isDuration (complete : settings.Complete)
    (duration : settings.requestTimeout.IsDuration) {nodes : List Url}
    (each : List.Forall₂ (fun text url => node text = .ok url) settings.urls nodes) :
    ∃ client, ofSettings settings = .ok client ∧ client.nodes = nodes := by
  have listed := mapM_node_eq_ok_iff.mpr each
  rcases (Binary64.Extended.exists_nanoseconds_iff _).mpr duration with ⟨count, counted, nonzero⟩
  rcases Nat.exists_eq_succ_of_ne_zero nonzero with ⟨less, rfl⟩
  unfold ofSettings
  rw [dif_neg complete.urls, complete.index, counted]
  simp only [Bool.false_eq_true, if_false]
  split
  · next refused => cases listed.symm.trans refused
  · next read =>
      cases listed.symm.trans read
      exact ⟨_, rfl, rfl⟩

/-- A client has the nodes of its settings in their order, and its clock counts
its timeout. -/
theorem complete_of_ofSettings {client : Client} (made : ofSettings settings = .ok client) :
    settings.Complete ∧ settings.requestTimeout.IsDuration ∧
      List.Forall₂ (fun text url => node text = .ok url) settings.urls client.nodes := by
  unfold ofSettings at made
  split at made
  · cases made
  next urls =>
  split at made
  · cases made
  next index =>
  have complete : settings.Complete := ⟨urls, Bool.eq_false_iff.mpr index⟩
  split at made
  · cases made
  · cases made
  next count nonzero counted =>
  have duration : settings.requestTimeout.IsDuration :=
    (Binary64.Extended.exists_nanoseconds_iff _).mp ⟨count, counted, nonzero⟩
  split at made
  · cases made
  next nodes read =>
  cases made
  exact ⟨complete, duration, mapM_node_eq_ok_iff.mp read⟩

end Client

/-! ## What they make of timeouts -/

/-- A text is the URL of a node if it can be read and its scheme is for
hypertext. -/
theorem Client.node_of_isHypertext {text : String} {url : Url} (read : Url.parse text = .ok url)
    (hypertext : url.isHypertext = true) : node text = .ok url.asDirectory := by
  rw [node, read]
  exact if_pos hypertext

/-- Among settings whose nodes are all URLs for hypertext, valid ones give a
client exactly if their timeout is a duration, and otherwise they are refused
for the timeout.  Settings that give a client are valid, unless there are no
workers. -/
theorem Settings.client_of_valid_iff_duration (settings : Settings)
    (hypertext : ∀ text ∈ settings.backend.urls,
      ∃ url, Url.parse text = .ok url ∧ url.isHypertext = true) :
    (settings.validate = .ok () →
      (settings.backend.requestTimeout.IsDuration →
        ∃ client, Client.ofSettings settings.backend = .ok client) ∧
      (¬ settings.backend.requestTimeout.IsDuration →
        Client.ofSettings settings.backend =
          .error (.badTimeout settings.backend.requestTimeout))) ∧
    ∀ client, Client.ofSettings settings.backend = .ok client →
      settings.validate = .ok () ∨ settings.validate = .error .workersMissing := by
  constructor
  · intro valid
    have complete := complete_of_validate valid
    constructor
    · intro duration
      have nodes : ∃ nodes, List.Forall₂ (fun text url => Client.node text = .ok url)
          settings.backend.urls nodes := by
        rw [exists_forall₂_iff]
        intro text listed
        rcases hypertext text listed with ⟨url, read, scheme⟩
        exact ⟨url.asDirectory, Client.node_of_isHypertext read scheme⟩
      rcases nodes with ⟨nodes, each⟩
      rcases Client.exists_ofSettings_of_isDuration complete duration each with ⟨client, made, -⟩
      exact ⟨client, made⟩
    · exact Client.ofSettings_of_not_isDuration complete
  · intro client made
    rcases Client.complete_of_ofSettings made with ⟨complete, duration, -⟩
    rw [validate_of_positive complete duration.isPositive]
    split
    · exact Or.inr rfl
    · exact Or.inl rfl

/-- A node in the same machine and the default timeout make a client. -/
theorem Settings.client_of_valid_iff_duration_loopback :
    let settings : Settings := { backend := { urls := ["http://[::1]:9200"], index := "docs" } }
    (∀ text ∈ settings.backend.urls, ∃ url, Url.parse text = .ok url ∧ url.isHypertext = true) ∧
      settings.validate = .ok () ∧
      ∃ client, Client.ofSettings settings.backend = .ok client := by
  intro settings
  have hypertext : ∀ text ∈ settings.backend.urls,
      ∃ url, Url.parse text = .ok url ∧ url.isHypertext = true := by
    intro text listed
    rw [List.mem_singleton.mp listed]
    have read : (Url.parse "http://[::1]:9200").toOption.any Url.isHypertext = true := by
      decide +kernel
    cases parsed : Url.parse "http://[::1]:9200" with
    | error problem =>
        rw [parsed] at read
        cases read
    | ok url =>
        rw [parsed] at read
        exact ⟨url, rfl, read⟩
  have valid : settings.validate = .ok () := by decide +kernel
  have counted : ∃ count, settings.backend.requestTimeout.nanoseconds? = some count ∧ count ≠ 0 :=
    ⟨30000000000, by decide +kernel, by decide⟩
  have duration := (Binary64.Extended.exists_nanoseconds_iff _).mp counted
  exact ⟨hypertext, valid, ((client_of_valid_iff_duration settings hypertext).1 valid).1 duration⟩

/-- A tenth of a nanosecond and a one with three hundred zeros are finite
numbers of seconds above zero, and no client waits for either. -/
theorem Settings.valid_timeout_is_refused :
    let settings (seconds : Binary64) : Settings := { backend := {
      urls := ["http://[::1]:9200"], index := "docs", requestTimeout := .finite seconds } }
    ∃ short long, Binary64.nearest? false (1 / 10000000000) = some short ∧
      Binary64.nearest? false (10 ^ 300) = some long ∧
      ∀ seconds ∈ [short, long], (settings seconds).validate = .ok () ∧
        Client.ofSettings (settings seconds).backend = .error (.badTimeout (.finite seconds)) := by
  intro settings
  have refused (seconds : Binary64)
      (uncounted : (Binary64.Extended.finite seconds).nanoseconds?.getD 0 = 0) :
      Client.ofSettings (settings seconds).backend = .error (.badTimeout (.finite seconds)) := by
    have index : Text.blank "docs" = false := by decide
    refine Client.ofSettings_of_not_isDuration ⟨List.cons_ne_nil _ _, index⟩ ?_
    intro duration
    rcases (Binary64.Extended.exists_nanoseconds_iff _).mpr duration with ⟨count, counted, nonzero⟩
    have counted' : (Binary64.Extended.finite seconds).nanoseconds? = some count := counted
    rw [counted'] at uncounted
    exact nonzero uncounted
  refine ⟨⟨false, ⟨4457293557087583675, by decide⟩⟩, ⟨false, ⟨9094988921128908188, by decide⟩⟩,
    by decide +kernel, by decide +kernel, ?_⟩
  intro seconds listed
  rw [List.mem_cons, List.mem_singleton] at listed
  rcases listed with rfl | rfl
  · exact ⟨by decide +kernel, refused _ (by decide +kernel)⟩
  · exact ⟨by decide +kernel, refused _ (by decide +kernel)⟩

end CriteriaSearch
