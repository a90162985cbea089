import CriteriaSearch.Settings.Environment
import Mathlib.Data.List.Forall2

namespace CriteriaSearch

/-!
# What the texts of variables say

The variable for the nodes holds a list.  Commas divide it into parts, and every
part that is not blank is one URL, whatever white space stands around it.  Hence
a list of URLs can be written with any white space, as long as no URL holds a
comma or ends in white space itself, and is read back as it was.

The variable for the workers holds a number, in decimal digits and perhaps
behind a plus sign.  Everything else is passed over, numbers beyond a word
included.
-/

/-! ## Words in parts -/

namespace Text

/-- A word is not blank, and no white space stands at its ends. -/
structure IsWord (word : List Char) : Prop where
  visible : isBlank word = false
  trimmed : trim word = word

/-- The part is the word, with white space around it or without. -/
def Pads (word part : List Char) : Prop :=
  ∃ front back, isBlank front = true ∧ isBlank back = true ∧ part = front ++ (word ++ back)

/-- The words are those that the parts hold, in their order.  A part that is
blank holds none, and every other part holds one. -/
inductive Lists : List (List Char) → List (List Char) → Prop where
  | nil : Lists [] []
  | blank {part : List Char} {parts words : List (List Char)} (blank : isBlank part = true)
      (rest : Lists parts words) : Lists (part :: parts) words
  | word {part word : List Char} {parts words : List (List Char)} (own : IsWord word)
      (padded : Pads word part) (rest : Lists parts words) : Lists (part :: parts) (word :: words)

theorem IsWord.trim_eq {word part : List Char} (own : IsWord word) (padded : Pads word part) :
    trim part = word := by
  rcases padded with ⟨front, back, before, after, rfl⟩
  rw [trim_blank_append before, trim_append_blank after, own.trimmed]

theorem IsWord.ne_nil {word : List Char} (own : IsWord word) : word ≠ [] := by
  rintro rfl
  cases own.visible

theorem lists_iff {parts words : List (List Char)} :
    Lists parts words ↔ (parts.map trim).filter (· ≠ []) = words := by
  constructor
  · intro lists
    induction lists with
    | nil => rfl
    | blank blank rest ih =>
        rw [List.map_cons, (trim_eq_nil_iff _).mpr blank]
        exact ih
    | word own padded rest ih =>
        rw [List.map_cons, own.trim_eq padded, List.filter_cons_of_pos (by simpa using own.ne_nil),
          ih]
  · rintro rfl
    induction parts with
    | nil => exact .nil
    | cons part rest ih =>
        cases blank : isBlank part with
        | true =>
            rw [List.map_cons, (trim_eq_nil_iff _).mpr blank]
            exact .blank blank ih
        | false =>
            have own : IsWord (trim part) := ⟨(isBlank_trim part).trans blank, trim_trim part⟩
            rw [List.map_cons, List.filter_cons_of_pos (by simpa using own.ne_nil)]
            exact .word own (exists_trim part) ih

theorem lists_of_forall₂ {words parts : List (List Char)} (each : List.Forall₂ Pads words parts)
    (own : ∀ word ∈ words, IsWord word) : Lists parts words := by
  induction each with
  | nil => exact .nil
  | cons padded rest ih =>
      rcases List.forall_mem_cons.mp own with ⟨first, later⟩
      exact .word first padded (ih later)

/-- A visible character comes into a padded word by the word only. -/
theorem not_mem_of_pads {c : Char} {word part : List Char} (visible : isBlankChar c = false)
    (absent : c ∉ word) (padded : Pads word part) : c ∉ part := by
  rcases padded with ⟨front, back, before, after, rfl⟩
  have outside (space : List Char) (blank : isBlank space = true) : c ∉ space := by
    intro inside
    rw [isBlank, List.all_eq_true] at blank
    exact Bool.false_ne_true (visible.symm.trans (blank c inside))
  rw [List.mem_append, List.mem_append]
  rintro (inside | inside | inside)
  · exact outside front before inside
  · exact absent inside
  · exact outside back after inside

end Text

/-! ## The nodes -/

/-- The URLs of a list are exactly what stands between its commas, apart from
white space. -/
theorem urlList_eq_iff {text : String} {urls : List String} :
    urlList text = urls ↔
      ∃ parts, Text.FallsInto ',' text.toList parts ∧
        Text.Lists parts (urls.map String.toList) := by
  have chars : urlList text = urls ↔
      ((Text.pieces ',' text.toList).map Text.trim).filter (· ≠ []) = urls.map String.toList := by
    have there : String.toList ∘ String.ofList = id := funext fun _ => String.toList_ofList
    have back : String.ofList ∘ String.toList = id := funext fun _ => String.ofList_toList
    rw [urlList]
    constructor
    · rintro rfl
      rw [List.map_map, there, List.map_id]
    · intro same
      rw [same, List.map_map, back, List.map_id]
  rw [chars, ← Text.lists_iff]
  constructor
  · intro lists
    exact ⟨_, Text.fallsInto_pieces ',' text.toList, lists⟩
  · rintro ⟨parts, falls, lists⟩
    rwa [falls.eq_pieces] at lists

/-- URLs without commas are read back however much white space is put around
them. -/
theorem urlList_intercalate {urls written : List String}
    (each : List.Forall₂ (fun url part => Text.Pads url.toList part.toList) urls written)
    (own : ∀ url ∈ urls, Text.IsWord url.toList ∧ ',' ∉ url.toList) :
    urlList (",".intercalate written) = urls := by
  have apart : ∀ part ∈ written.map String.toList, ',' ∉ part := by
    induction each with
    | nil => nofun
    | cons padded rest ih =>
        rcases List.forall_mem_cons.mp own with ⟨first, later⟩
        exact List.forall_mem_cons.mpr
          ⟨Text.not_mem_of_pads (by decide) first.2 padded, ih later⟩
  have lists : Text.Lists (written.map String.toList) (urls.map String.toList) := by
    refine Text.lists_of_forall₂ ?_ (List.forall_mem_map.mpr fun url listed => (own url listed).1)
    rwa [List.forall₂_map_left_iff, List.forall₂_map_right_iff]
  have whole :
      Text.joined [','] (written.map String.toList) = (",".intercalate written).toList := by
    rw [Text.joined_eq_intercalate, String.toList_intercalate]
    rfl
  by_cases none : written = []
  · -- A list without URLs is the empty text, which falls into one part.
    subst none
    rw [List.forall₂_nil_right_iff.mp each]
    rfl
  · exact urlList_eq_iff.mpr ⟨_, ⟨by simpa using none, apart, whole⟩, lists⟩

/-! ## The workers -/

namespace Text

/-- The digits write the number, the leading digit first. -/
structure IsNumeral (digits : List Char) (n : Nat) : Prop where
  inhabited : digits ≠ []
  decimal : ∀ c ∈ digits, c.isDigit = true
  value : Nat.ofDigitChars 10 digits 0 = n

theorem hexDigit?_of_isDigit {c : Char} (digit : c.isDigit = true) :
    hexDigit? c = some (c.toNat - '0'.toNat) := by
  have range : ('0' ≤ c && c ≤ '9') = true := by
    simpa [Char.isDigit, Char.le_def] using digit
  rw [hexDigit?, if_pos range]

/-- The hexadecimal digits below ten are the decimal ones. -/
theorem isDigit_of_hexDigit? {c : Char} {d : Nat} (read : hexDigit? c = some d) (small : d < 10) :
    c.isDigit = true := by
  unfold hexDigit? at read
  split at read
  · next range => simpa [Char.isDigit, Char.le_def] using range
  · split at read
    · cases read
      omega
    · split at read
      · cases read
        omega
      · cases read

theorem mapM_hexDigit?_of_isDigit {cs : List Char} (decimal : ∀ c ∈ cs, c.isDigit = true) :
    cs.mapM hexDigit? = some (cs.map fun c => c.toNat - '0'.toNat) := by
  induction cs with
  | nil => rfl
  | cons c rest ih =>
      rcases List.forall_mem_cons.mp decimal with ⟨first, later⟩
      rw [List.mapM_cons, hexDigit?_of_isDigit first, ih later]
      rfl

theorem isDigit_of_mapM_hexDigit? {cs : List Char} {digits : List Nat}
    (read : cs.mapM hexDigit? = some digits) (small : ∀ d ∈ digits, d < 10) :
    ∀ c ∈ cs, c.isDigit = true := by
  induction cs generalizing digits with
  | nil => nofun
  | cons c rest ih =>
      rw [List.mapM_cons] at read
      rcases Option.bind_eq_some_iff.mp read with ⟨d, first, read⟩
      rcases Option.bind_eq_some_iff.mp read with ⟨others, later, made⟩
      cases made
      rcases List.forall_mem_cons.mp small with ⟨own, below⟩
      exact List.forall_mem_cons.mpr ⟨isDigit_of_hexDigit? first own, ih later below⟩

theorem numeral?_eq_some_iff {base n : Nat} {cs : List Char} :
    numeral? base cs = some n ↔
      ∃ digits, cs.mapM hexDigit? = some digits ∧ digits ≠ [] ∧ (∀ d ∈ digits, d < base) ∧
        digitsValue base digits = n := by
  have refused (digits : List Nat) : (digits.isEmpty || digits.any (base ≤ ·)) = false ↔
      digits ≠ [] ∧ ∀ d ∈ digits, d < base := by
    simp
  rw [numeral?, Option.bind_eq_bind, Option.bind_eq_some_iff]
  refine exists_congr fun digits => and_congr_right fun _ => ?_
  rw [← and_assoc, ← refused]
  cases digits.isEmpty || digits.any (base ≤ ·) <;> simp

/-- Decimal numerals are read as what they write. -/
theorem numeral?_ten_eq_some_iff {cs : List Char} {n : Nat} :
    numeral? 10 cs = some n ↔ IsNumeral cs n := by
  have value : digitsValue 10 (cs.map fun c => c.toNat - '0'.toNat) = Nat.ofDigitChars 10 cs 0 := by
    rw [digitsValue, List.foldl_map]
    rfl
  rw [numeral?_eq_some_iff]
  constructor
  · rintro ⟨digits, read, inhabited, small, rfl⟩
    have decimal := isDigit_of_mapM_hexDigit? read small
    rw [mapM_hexDigit?_of_isDigit decimal] at read
    cases read
    exact ⟨by simpa using inhabited, decimal, value.symm⟩
  · rintro ⟨inhabited, decimal, rfl⟩
    refine ⟨_, mapM_hexDigit?_of_isDigit decimal, by simpa using inhabited, ?_, value⟩
    rw [List.forall_mem_map]
    intro c listed
    have range : c.toNat ≤ 57 := by
      have digit := decimal c listed
      simp only [Char.isDigit, Bool.and_eq_true, decide_eq_true_eq, UInt32.le_iff_toNat_le] at digit
      exact digit.2
    have zero : '0'.toNat = 48 := rfl
    omega

end Text

/-- The text is a number of workers: a numeral, perhaps behind a plus sign, for a
number that fits into a word. -/
structure IsWorkerCount (text : String) (n : Nat) : Prop where
  small : n < UInt64.size
  numeral : ∃ digits, Text.IsNumeral digits n ∧
    (text.toList = digits ∨ text.toList = '+' :: digits)

/-- A plus sign is no part of the numeral, and without one the whole text is. -/
theorem workerCount?_eq_numeral? (text : String) :
    ∃ digits, workerCount? text = (Text.numeral? 10 digits).filter (· < UInt64.size) ∧
      (text.toList = digits ∧ digits.head? ≠ some '+' ∨ text.toList = '+' :: digits) := by
  have counted (digits : List Char) :
      ((Text.numeral? 10 digits).bind fun n => if n < UInt64.size then some n else none) =
        (Text.numeral? 10 digits).filter (· < UInt64.size) := by
    cases Text.numeral? 10 digits with
    | none => rfl
    | some n => simp [Option.filter]
  unfold workerCount?
  split
  · next rest signed => exact ⟨rest, counted rest, Or.inr signed⟩
  · next unsigned =>
      refine ⟨text.toList, counted _, Or.inl ⟨rfl, fun plus => ?_⟩⟩
      rcases List.head?_eq_some_iff.mp plus with ⟨rest, signed⟩
      exact unsigned rest signed

theorem workerCount?_eq_some_iff {text : String} {n : Nat} :
    workerCount? text = some n ↔ IsWorkerCount text n := by
  have unsigned {rest : List Char} : ¬ Text.IsNumeral ('+' :: rest) n := by
    intro numeral
    exact Bool.false_ne_true (numeral.decimal '+' List.mem_cons_self)
  rcases workerCount?_eq_numeral? text with ⟨digits, count, place⟩
  rw [count, Option.filter_eq_some_iff, Text.numeral?_ten_eq_some_iff, decide_eq_true_eq]
  constructor
  · rintro ⟨numeral, small⟩
    exact ⟨small, digits, numeral, place.imp_left And.left⟩
  · rintro ⟨small, others, numeral, also⟩
    refine ⟨?_, small⟩
    rcases place with ⟨whole, plain⟩ | signed
    · rcases also with same | signed
      · rwa [← whole, same]
      · exact absurd (congrArg List.head? (whole.symm.trans signed)) plain
    · rcases also with same | again
      · rw [← same, signed] at numeral
        exact absurd numeral unsigned
      · rwa [(List.cons.inj (signed.symm.trans again)).2]

end CriteriaSearch
