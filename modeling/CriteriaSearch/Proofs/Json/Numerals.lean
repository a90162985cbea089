import CriteriaSearch.Json.Decoding
import CriteriaSearch.Json.Printer

namespace CriteriaSearch

/-!
# Reading numbers inside a document

Nothing closes a numeral but the character behind it, so a reader that has
passed over all of its digits does not yet hold a value.  What it holds is as
good as the value: the end of the text completes the numeral, and so does a
comma or a new line, the only characters that printed values are followed by.

An integer is read digit by digit.  The text of a double is read back only as
well as doubles are scaled, and that is asked of the double printed by itself.
It is then the same inside a document, since a text made of the characters of
numerals either stops making sense or leads to one numeral, whatever containers
are open around it.
-/

namespace Reading

namespace State

/-- A value may begin. -/
structure Ready (st : State) : Prop where
  phase : ∃ mayClose, st.phase = .value mayClose
  frames : ∀ done outer, st.frames ≠ .members done :: outer

/-- One state is as good as another: at the end of the text they are the same,
and so they are after a comma or a new line. -/
structure Settles (st done : State) : Prop where
  finish : st.finish = done
  step : ∀ c, c = ',' ∨ c = '\n' → st.step c = done.step c

theorem Settles.refl {st : State} (phase : st.phase = .separator) : st.Settles st where
  finish := by simp only [State.finish, phase]
  step _ _ := rfl

theorem step_of_value {st : State} {mayClose : Bool} (phase : st.phase = .value mayClose)
    (c : Char) : st.step c = st.stepValue mayClose c := by
  simp only [step, phase]

theorem step_of_separator {st : State} (phase : st.phase = .separator) (c : Char) :
    st.step c = st.stepSeparator c := by
  simp only [step, phase]

theorem complete_with_phase (st : State) (phase : Phase) (value : Reading) :
    complete { st with phase } value = st.complete value := by
  rcases st with ⟨frames, top, old⟩
  rcases frames with _ | ⟨_ | _ | _, outer⟩ <;> rfl

theorem Ready.phase_complete {st : State} (ready : st.Ready) (value : Reading) :
    (st.complete value).phase = .separator := by
  rcases st with ⟨frames, top, phase⟩
  rcases frames with _ | ⟨done | done | ⟨done, name⟩, outer⟩
  · rfl
  · rfl
  · exact absurd rfl (ready.frames done outer)
  · rfl

theorem foldl_step_of_stuck {st : State} (stuck : st.phase = .stuck) (cs : List Char) :
    cs.foldl step st = st := by
  induction cs with
  | nil => rfl
  | cons c rest ih =>
      have still : st.step c = st := by rw [step, stuck]
      rw [List.foldl_cons, still, ih]

end State

open State

/-- The characters are read as the value wherever a value may begin. -/
def ReadsAs (cs : List Char) (value : Reading) : Prop :=
  ∀ st : State, st.Ready → (cs.foldl step st).Settles (st.complete value)

theorem ready_start : State.Ready {} where
  phase := ⟨false, rfl⟩
  frames := nofun

theorem ReadsAs.ofText {cs : List Char} {value : Reading} (reads : ReadsAs cs value) :
    ofText cs = (value, true) := by
  rw [Reading.ofText, (reads {} ready_start).finish]
  rfl

/-! ## Numerals that may end -/

def NumeralStage.mayEnd : NumeralStage → Bool
  | .afterZero | .whole | .fraction | .exponent => true
  | .afterMinus | .afterPoint | .afterMark | .afterSign => false

theorem settles_numeral {st : State} (ready : st.Ready) {draft : NumeralDraft}
    (ended : draft.stage.mayEnd = true) :
    State.Settles { st with phase := .numeral draft }
      (st.complete (.num draft.numeral.number?)) := by
  have done := complete_with_phase st (.numeral draft) (.num draft.numeral.number?)
  have phase := ready.phase_complete (.num draft.numeral.number?)
  rcases draft with ⟨stage, negative, whole, fraction, exponentNegative, exponent⟩
  constructor
  · cases stage with
    | afterZero | whole | fraction | exponent => exact done
    | _ => cases ended
  · intro c follows
    rw [step_of_separator phase]
    cases stage with
    | afterZero | whole | fraction | exponent =>
        rcases follows with rfl | rfl
        · exact congrArg (State.stepSeparator · ',') done
        · exact congrArg (State.stepSeparator · '\n') done
    | _ => cases ended

/-! ## Integers -/

theorem digit?_digitChar {d : Nat} (small : d < 10) : Text.digit? (Nat.digitChar d) = some d := by
  have all : ∀ k : Fin 10, Text.digit? (Nat.digitChar k.val) = some k.val := by decide
  exact all ⟨d, small⟩

theorem exists_digitChar_eq {c : Char} (digit : c.isDigit = true) :
    ∃ d, d < 10 ∧ Nat.digitChar d = c := by
  have range : 48 ≤ c.toNat ∧ c.toNat ≤ 57 := by
    simpa [Char.isDigit, UInt32.le_iff_toNat_le] using digit
  refine ⟨c.toNat - 48, by omega, Char.toNat_inj.mp ?_⟩
  rw [Nat.toNat_digitChar_of_lt_ten (by omega)]
  omega

theorem digitsValue_append_singleton (base : Nat) (digits : List Nat) (d : Nat) :
    Text.digitsValue base (digits ++ [d]) = base * Text.digitsValue base digits + d := by
  rw [Text.digitsValue, List.foldl_append]
  rfl

theorem step_whole_digit (st : State) (negative : Bool) (whole : List Nat) {d : Nat}
    (small : d < 10) :
    State.step { st with phase := .numeral { stage := .whole, negative, whole } }
        (Nat.digitChar d) =
      { st with phase := .numeral { stage := .whole, negative, whole := d :: whole } } := by
  simp only [State.step, State.stepNumeral, digit?_digitChar small]

/-- The digits of a positive number, once the first of them has begun a
numeral. -/
theorem foldl_step_toDigits {start st : State} {negative : Bool}
    (first : ∀ d, 0 < d → d < 10 → start.step (Nat.digitChar d) =
      { st with phase := .numeral { stage := .whole, negative, whole := [d] } })
    {n : Nat} (positive : 0 < n) :
    ∃ whole, (Nat.toDigits 10 n).foldl step start =
        { st with phase := .numeral { stage := .whole, negative, whole } } ∧
      Text.digitsValue 10 whole.reverse = n := by
  induction n using Nat.strongRecOn with
  | ind n ih =>
      by_cases small : n < 10
      · refine ⟨[n], ?_, Nat.zero_add n⟩
        rw [Nat.toDigits_of_lt_base small]
        exact first n positive small
      · have shorter := ih (n / 10) (by omega) (by omega)
        rcases shorter with ⟨whole, read, value⟩
        refine ⟨n % 10 :: whole, ?_, ?_⟩
        · rw [Nat.toDigits_of_base_le (by decide) (by omega), List.foldl_append, read]
          exact step_whole_digit st negative whole (Nat.mod_lt n (by decide))
        · rw [List.reverse_cons, digitsValue_append_singleton, value]
          exact Nat.div_add_mod n 10

theorem wordInt_ofInt?_val (n : WordInt) : WordInt.ofInt? n.val = some n := by
  rw [WordInt.ofInt?, dif_pos ⟨n.least, n.bound⟩]

theorem number?_whole (n : WordInt) {digits : List Nat}
    (value : Text.digitsValue 10 digits = n.val.natAbs) :
    Numeral.number? {
      negative := decide (n.val < 0), whole := digits, fraction := none, exponent := none } =
      some (.integer n) := by
  by_cases below : n.val < 0
  · have written : Text.digitsValue 10 digits ≠ 0 := by omega
    have negated : -(Text.digitsValue 10 digits : Int) = n.val := by omega
    simp [Numeral.number?, below, written, negated, wordInt_ofInt?_val]
  · have same : (Text.digitsValue 10 digits : Int) = n.val := by omega
    simp [Numeral.number?, below, same, wordInt_ofInt?_val]

theorem stepValue_digit (st : State) (mayClose : Bool) {d : Nat} (positive : 0 < d)
    (small : d < 10) :
    st.stepValue mayClose (Nat.digitChar d) =
      { st with phase := .numeral { stage := .whole, whole := [d] } } := by
  have digits : d = 1 ∨ d = 2 ∨ d = 3 ∨ d = 4 ∨ d = 5 ∨ d = 6 ∨ d = 7 ∨ d = 8 ∨ d = 9 := by omega
  rcases digits with rfl | rfl | rfl | rfl | rfl | rfl | rfl | rfl | rfl <;> rfl

/-- The digits of an integer, read behind its sign, settle the integer. -/
theorem settles_integer {st : State} (ready : st.Ready) (n : WordInt) {stage : NumeralStage}
    (ended : stage.mayEnd = true) {negative : Bool} (sign : decide (n.val < 0) = negative)
    {whole : List Nat} (value : Text.digitsValue 10 whole.reverse = n.val.natAbs) :
    State.Settles { st with phase := .numeral { stage, negative, whole } }
      (st.complete (.num (some (.integer n)))) := by
  have number := number?_whole n value
  rw [sign] at number
  rw [← number]
  exact settles_numeral ready ended

/-- A printed integer is read back. -/
theorem readsAs_integer (n : WordInt) :
    ReadsAs (Number.integer n).text (.num (some (.integer n))) := by
  intro st ready
  have ⟨mayClose, phase⟩ := ready.phase
  rw [Number.text, Number.intText]
  by_cases below : n.val < 0
  · have minus : st.step '-' =
        { st with phase := .numeral { stage := .afterMinus, negative := true } } :=
      step_of_value phase '-'
    have first : ∀ d, 0 < d → d < 10 → (st.step '-').step (Nat.digitChar d) =
        { st with phase := .numeral { stage := .whole, negative := true, whole := [d] } } := by
      intro d positive small
      rcases Nat.exists_eq_add_one.mpr positive with ⟨e, rfl⟩
      rw [minus]
      simp only [State.step, State.stepNumeral, digit?_digitChar small]
    have digits := foldl_step_toDigits first (n := n.val.natAbs) (by omega)
    rcases digits with ⟨whole, read, value⟩
    rw [if_pos below, List.singleton_append, List.foldl_cons, read]
    exact settles_integer ready n rfl (decide_eq_true below) value
  · have sign : decide (n.val < 0) = false := decide_eq_false below
    rw [if_neg below, List.nil_append]
    by_cases zero : n.val.natAbs = 0
    · have read : st.step '0' =
          { st with phase := .numeral { stage := .afterZero, whole := [0] } } :=
        step_of_value phase '0'
      rw [zero, Nat.toDigits_of_lt_base (by decide), List.foldl_cons, List.foldl_nil]
      exact read ▸ settles_integer ready n rfl sign zero.symm
    · have first : ∀ d, 0 < d → d < 10 → st.step (Nat.digitChar d) =
          { st with phase := .numeral { stage := .whole, negative := false, whole := [d] } } := by
        intro d positive small
        rw [step_of_value phase]
        exact stepValue_digit st mayClose positive small
      have digits := foldl_step_toDigits first (n := n.val.natAbs) (by omega)
      rcases digits with ⟨whole, read, value⟩
      rw [read]
      exact settles_integer ready n rfl sign value

/-! ## Doubles -/

/-- A character that the text of a double is made of. -/
def isNumeralChar (c : Char) : Bool :=
  c.isDigit || c = '.' || c = 'e' || c = '+' || c = '-'

theorem stepSeparator_of_isNumeralChar (st : State) {c : Char} (numeral : isNumeralChar c = true) :
    st.stepSeparator c = st.fail := by
  have ne (other : Char) (foreign : isNumeralChar other = false) : c ≠ other := by
    rintro rfl
    exact Bool.noConfusion (numeral.symm.trans foreign)
  have solid : isSpace c = false := by
    simp only [isSpace, ne ' ' rfl, ne '\n' rfl, ne '\t' rfl, ne '\r' rfl, decide_false,
      Bool.or_self]
  unfold State.stepSeparator
  rw [if_neg (Bool.eq_false_iff.mp solid)]
  split
  · cases numeral
  · cases numeral
  · cases numeral
  · cases numeral
  · rfl

/-- What happens to a reader does not depend on the containers that are open:
either the text stops making sense in every state, or the same numeral is being
read in every state. -/
def Uniform (f : State → State) : Prop :=
  (∀ st, (f st).phase = .stuck) ∨ ∃ draft, ∀ st, f st = { st with phase := .numeral draft }

namespace Uniform

theorem fail : Uniform State.fail :=
  Or.inl fun _ => rfl

theorem numeral (draft : NumeralDraft) : Uniform fun st => { st with phase := .numeral draft } :=
  Or.inr ⟨draft, fun _ => rfl⟩

theorem ite {f g : State → State} {p : Prop} [Decidable p] (yes : Uniform f) (no : Uniform g) :
    Uniform fun st => if p then f st else g st := by
  by_cases holds : p
  · simpa only [if_pos holds] using yes
  · simpa only [if_neg holds] using no

/-- The next character of a numeral. -/
theorem stepNumeral (draft : NumeralDraft) {c : Char} (belongs : isNumeralChar c = true) :
    Uniform fun st => st.stepNumeral draft c := by
  have stuck (st : State) : (st.leaveNumeral draft c).phase = .stuck := by
    rw [State.leaveNumeral, stepSeparator_of_isNumeralChar _ belongs]
    rfl
  have leave : Uniform fun st => st.leaveNumeral draft c := Or.inl stuck
  rcases draft with ⟨stage, negative, whole, fraction, exponentNegative, exponent⟩
  cases stage with
  | afterMinus =>
      rcases digit : Text.digit? c with _ | _ | d <;> simp only [State.stepNumeral, digit]
      · exact fail
      · exact numeral _
      · exact numeral _
  | afterZero =>
      exact ite fail (ite (numeral _) (ite (numeral _) leave))
  | whole =>
      cases digit : Text.digit? c <;> simp only [State.stepNumeral, digit]
      · exact ite (numeral _) (ite (numeral _) leave)
      · exact numeral _
  | fraction =>
      cases digit : Text.digit? c <;> simp only [State.stepNumeral, digit]
      · exact ite (numeral _) leave
      · exact numeral _
  | afterMark =>
      cases digit : Text.digit? c <;> simp only [State.stepNumeral, digit]
      · exact ite (numeral _) (ite (numeral _) fail)
      · exact numeral _
  | afterPoint | afterSign =>
      cases digit : Text.digit? c <;> simp only [State.stepNumeral, digit]
      · exact fail
      · exact numeral _
  | exponent =>
      cases digit : Text.digit? c <;> simp only [State.stepNumeral, digit]
      · exact leave
      · exact numeral _

theorem foldl_step (draft : NumeralDraft) {cs : List Char}
    (belong : ∀ c ∈ cs, isNumeralChar c = true) :
    Uniform fun st => cs.foldl State.step { st with phase := .numeral draft } := by
  induction cs generalizing draft with
  | nil => exact numeral draft
  | cons c rest ih =>
      have next := stepNumeral draft (belong c List.mem_cons_self)
      rcases next with stuck | ⟨later, next⟩
      · have gone (st : State) :
            ((c :: rest).foldl State.step { st with phase := .numeral draft }).phase = .stuck := by
          have first := stuck { st with phase := .numeral draft }
          rw [List.foldl_cons]
          exact (State.foldl_step_of_stuck first rest).symm ▸ first
        exact Or.inl gone
      · have following := ih later fun d among => belong d (List.mem_cons_of_mem c among)
        have first (st : State) : State.step { st with phase := .numeral draft } c =
            { st with phase := .numeral later } := next { st with phase := .numeral draft }
        simpa only [List.foldl_cons, first] using following

/-- The first character of a numeral. -/
theorem stepValue (mayClose : Bool) {c : Char} (belongs : isNumeralChar c = true) :
    Uniform (fun st => st.stepValue false c) ∧
      ∀ st : State, st.stepValue mayClose c = st.stepValue false c := by
  simp only [isNumeralChar, Bool.or_eq_true, decide_eq_true_eq, or_assoc] at belongs
  rcases belongs with digit | rfl | rfl | rfl | rfl
  · rcases exists_digitChar_eq digit with ⟨d, small, rfl⟩
    rcases Nat.eq_zero_or_pos d with rfl | positive
    · exact ⟨numeral _, fun _ => rfl⟩
    · have first (st : State) := stepValue_digit st false positive small
      refine ⟨?_, fun st => (stepValue_digit st mayClose positive small).trans (first st).symm⟩
      simpa only [first] using numeral _
  · exact ⟨fail, fun _ => rfl⟩
  · exact ⟨fail, fun _ => rfl⟩
  · exact ⟨fail, fun _ => rfl⟩
  · exact ⟨numeral _, fun _ => rfl⟩

end Uniform

/-- A text of such characters is read alike wherever a value may begin. -/
theorem foldl_step_numeralChars {cs : List Char} (inhabited : cs ≠ [])
    (belong : ∀ c ∈ cs, isNumeralChar c = true) :
    (∀ st : State, st.Ready → (cs.foldl step st).phase = .stuck) ∨
      ∃ draft, ∀ st : State, st.Ready → cs.foldl step st = { st with phase := .numeral draft } := by
  rcases List.exists_cons_of_ne_nil inhabited with ⟨c, rest, rfl⟩
  have numeral := belong c List.mem_cons_self
  have first {st : State} (ready : st.Ready) : st.step c = st.stepValue false c := by
    have ⟨mayClose, phase⟩ := ready.phase
    exact (step_of_value phase c).trans ((Uniform.stepValue mayClose numeral).2 st)
  rcases (Uniform.stepValue false numeral).1 with stuck | ⟨draft, begun⟩
  · left
    intro st ready
    rw [List.foldl_cons, first ready, State.foldl_step_of_stuck (stuck st)]
    exact stuck st
  · have later := Uniform.foldl_step draft fun d among => belong d (List.mem_cons_of_mem c among)
    rcases later with stuck | ⟨last, read⟩
    · left
      intro st ready
      rw [List.foldl_cons, (first ready).trans (begun st)]
      exact stuck st
    · refine Or.inr ⟨last, ?_⟩
      intro st ready
      rw [List.foldl_cons, (first ready).trans (begun st)]
      exact read st

theorem finish_numeral (draft : NumeralDraft) :
    State.finish { phase := .numeral draft } =
      if draft.stage.mayEnd then { top := some (.num draft.numeral.number?), phase := .separator }
      else { phase := .stuck } := by
  rcases draft with ⟨stage, negative, whole, fraction, exponentNegative, exponent⟩
  cases stage <;> rfl

/-- A text of such characters that is read as a number by itself is read as
this number inside a document. -/
theorem readsAs_of_ofText {cs : List Char} {number : Option Number}
    (belong : ∀ c ∈ cs, isNumeralChar c = true) (alone : ofText cs = (.num number, true)) :
    ReadsAs cs (.num number) := by
  have inhabited : cs ≠ [] := by
    rintro rfl
    cases alone
  rcases foldl_step_numeralChars inhabited belong with stuck | ⟨draft, read⟩
  · have ended := congrArg Prod.snd alone
    simp only [ofText, State.finish, State.ended, stuck {} ready_start] at ended
    cases ended
  · rw [ofText, read {} ready_start, finish_numeral] at alone
    cases whole : draft.stage.mayEnd with
    | false =>
        rw [whole] at alone
        cases alone
    | true =>
        rw [whole] at alone
        have same : draft.numeral.number? = number := Reading.num.inj (congrArg Prod.fst alone)
        intro st ready
        rw [read st ready, ← same]
        exact settles_numeral ready whole

/-! ## The text of a double -/

theorem isNumeralChar_of_mem_toDigits {n : Nat} {c : Char} (member : c ∈ Nat.toDigits 10 n) :
    isNumeralChar c = true := by
  have digit := Nat.isDigit_of_mem_toDigits (by decide) (by decide) member
  simp only [isNumeralChar, digit, Bool.true_or]

private theorem forall_mem_ite {α : Type} {P : α → Prop} {p : Prop} [Decidable p]
    {first second : List α} (yes : ∀ a ∈ first, P a) (no : ∀ a ∈ second, P a) :
    ∀ a ∈ if p then first else second, P a := by
  split
  · exact yes
  · exact no

theorem isNumeralChar_of_mem_positional {pointZero : Bool} {digits : List Char} {top : Int}
    (each : ∀ c ∈ digits, isNumeralChar c = true) :
    ∀ c ∈ Layout.positional pointZero digits top, isNumeralChar c = true := by
  have zeros (n : Nat) : ∀ c ∈ List.replicate n '0', isNumeralChar c = true := by
    intro c among
    rw [List.eq_of_mem_replicate among]
    rfl
  refine forall_mem_ite ?_ (forall_mem_ite ?_ ?_)
  · exact List.forall_mem_append.mpr
      ⟨List.forall_mem_append.mpr ⟨List.all_eq_true.mp rfl, zeros _⟩, each⟩
  · exact List.forall_mem_append.mpr ⟨List.forall_mem_append.mpr ⟨each, zeros _⟩,
      forall_mem_ite (List.all_eq_true.mp rfl) (List.forall_mem_nil _)⟩
  · exact List.forall_mem_append.mpr ⟨List.forall_mem_append.mpr
      ⟨fun c among => each c (List.mem_of_mem_take among), List.all_eq_true.mp rfl⟩,
      fun c among => each c (List.mem_of_mem_drop among)⟩

theorem isNumeralChar_of_mem_scientific {digits : List Char} {top : Int}
    (each : ∀ c ∈ digits, isNumeralChar c = true) :
    ∀ c ∈ Layout.scientific digits top, isNumeralChar c = true := by
  have fraction : ∀ c ∈ '.' :: digits.drop 1, isNumeralChar c = true :=
    List.forall_mem_cons.mpr ⟨rfl, fun c among => each c (List.mem_of_mem_drop among)⟩
  have mark : ∀ c ∈ ['e', if top < 0 then '-' else '+'], isNumeralChar c = true := by
    split <;> exact List.all_eq_true.mp rfl
  refine List.forall_mem_append.mpr ⟨List.forall_mem_append.mpr
    ⟨List.forall_mem_append.mpr ⟨?_, forall_mem_ite (List.forall_mem_nil _) fraction⟩, mark⟩, ?_⟩
  · exact fun c among => each c (List.mem_of_mem_take among)
  · exact fun c => isNumeralChar_of_mem_toDigits

theorem isNumeralChar_of_mem_text (layout : Layout) (x : Binary64) :
    ∀ c ∈ layout.text x, isNumeralChar c = true := by
  have sign : ∀ c ∈ if x.negative then ['-'] else [], isNumeralChar c = true :=
    forall_mem_ite (List.all_eq_true.mp rfl) (List.forall_mem_nil _)
  have significant (n : Nat) :
      ∀ c ∈ Layout.significant (Nat.toDigits 10 n), isNumeralChar c = true := by
    intro c among
    rw [Layout.significant, List.mem_reverse] at among
    have kept := (List.dropWhile_sublist _).subset among
    exact isNumeralChar_of_mem_toDigits (List.mem_reverse.mp kept)
  refine forall_mem_ite ?_ ?_
  · exact List.forall_mem_append.mpr
      ⟨sign, isNumeralChar_of_mem_positional (List.all_eq_true.mp rfl)⟩
  · exact List.forall_mem_append.mpr ⟨sign, forall_mem_ite
      (isNumeralChar_of_mem_positional (significant _))
      (isNumeralChar_of_mem_scientific (significant _))⟩

end Reading

end CriteriaSearch
