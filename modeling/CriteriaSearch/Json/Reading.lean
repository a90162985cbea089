import CriteriaSearch.Json.Basic
import CriteriaSearch.Text.Digits

/-!
# Reading JSON text from left to right

`Reading` is what a JSON text says up to the place where it stops making sense.  Containers that
are never closed keep what was read of them, members stay in the order of the text with all their
repetitions, and a numeral or a string that denotes nothing is kept as such.  So a decoder that
walks a reading from left to right meets every problem of the text, and every disagreement with
the shape that it expects, in the order in which they stand.

The reader is a machine that takes one character at a time.  Its state is the list of containers
that are open, innermost first, and what may come next.  Nothing is ever taken back, hence a text
is read by one fold over its characters.
-/

namespace CriteriaSearch

/-- What a JSON text says, read from left to right. -/
inductive Reading where
  /-- Here the text stops making sense. -/
  | broken
  | null
  | bool (b : Bool)
  /-- A numeral; it has no number when its magnitude is beyond the doubles. -/
  | num (n : Option Number)
  /-- A string; it has no text when it holds half of a surrogate pair. -/
  | str (s : Option String)
  | arr (items : List Reading) (closed : Bool)
  | obj (members : List (Option String × Reading)) (closed : Bool)
  deriving Inhabited

namespace Reading

/-- A container that has been opened and not closed, with its contents in reverse. -/
inductive Frame where
  | items (done : List Reading)
  | members (done : List (Option String × Reading))
  /-- An object whose last member so far has a name and no value yet. -/
  | named (done : List (Option String × Reading)) (name : Option String)

/-- How far an escape inside a string has been read. -/
inductive Escape where
  | outside
  | afterBackslash
  /-- Hexadecimal digits of a UTF-16 unit: how many are missing and the value so far. -/
  | unit (missing : Nat) (value : Nat)

/-- A string that is being read. -/
structure Quotation where
  /-- The characters so far, in reverse. -/
  chars : List Char := []
  escape : Escape := .outside
  /-- The high half of a surrogate pair that waits for its low half. -/
  pending : Option Nat := none
  /-- Whether every unit so far belongs to a character. -/
  sound : Bool := true

/-- How far a numeral has been read. -/
inductive NumeralStage where
  | afterMinus
  | afterZero
  | whole
  | afterPoint
  | fraction
  | afterMark
  | afterSign
  | exponent

/-- A numeral that is being read, with its digits in reverse. -/
structure NumeralDraft where
  stage : NumeralStage
  negative : Bool := false
  whole : List Nat := []
  fraction : Option (List Nat) := none
  exponentNegative : Bool := false
  exponent : Option (List Nat) := none

/-- The numeral read so far. -/
def NumeralDraft.numeral (draft : NumeralDraft) : Numeral where
  negative := draft.negative
  whole := draft.whole.reverse
  fraction := draft.fraction.map List.reverse
  exponent := draft.exponent.map fun digits => (draft.exponentNegative, digits.reverse)

/-- What may come next. -/
inductive Phase where
  /-- A value, or the end of the array that has just been opened. -/
  | value (mayClose : Bool)
  /-- A name, or the end of the object that has just been opened. -/
  | name (mayClose : Bool)
  | colon
  /-- A comma or the end of the container; at the top nothing but white space. -/
  | separator
  /-- The rest of a literal. -/
  | literal (rest : List Char) (means : Reading)
  | string (quotation : Quotation)
  | numeral (draft : NumeralDraft)
  /-- Nothing: the text has stopped making sense. -/
  | stuck

/-- The state of the reader. -/
structure State where
  frames : List Frame := []
  /-- The value at the top, once it is complete. -/
  top : Option Reading := none
  phase : Phase := .value false

namespace State

/-- The state in which the text has stopped making sense. -/
def fail (st : State) : State :=
  { st with phase := .stuck }

/-- A value is complete and goes into the innermost container. -/
def complete (st : State) (value : Reading) : State :=
  match st.frames with
  | [] => { st with top := some value, phase := .separator }
  | .items done :: outer =>
    { st with frames := .items (value :: done) :: outer, phase := .separator }
  | .named done name :: outer =>
    { st with frames := .members ((name, value) :: done) :: outer, phase := .separator }
  | .members _ :: _ => st.fail

/-- A string is complete: the name of a member, or a value. -/
def completeString (st : State) (text : Option String) : State :=
  match st.frames with
  | .members done :: outer => { st with frames := .named done text :: outer, phase := .colon }
  | _ => st.complete (.str text)

/-- The innermost container is closed by a bracket of its own kind. -/
def close (st : State) (bracket : Char) : State :=
  match st.frames, bracket with
  | .items done :: outer, ']' => complete { st with frames := outer } (.arr done.reverse true)
  | .members done :: outer, '}' => complete { st with frames := outer } (.obj done.reverse true)
  | _, _ => st.fail

end State

/-- The white space of JSON text. -/
def isSpace (c : Char) : Bool :=
  c = ' ' || c = '\n' || c = '\t' || c = '\r'

namespace Quotation

/-- A character that was written as itself or by a short escape. -/
def push (q : Quotation) (c : Char) : Quotation :=
  { q with chars := c :: q.chars, escape := .outside, sound := q.sound && q.pending.isNone }

/-- A UTF-16 unit written by its four digits. -/
def pushUnit (q : Quotation) (unit : Nat) : Quotation :=
  let isHigh : Bool := 0xD800 ≤ unit && unit < 0xDC00
  let isLow : Bool := 0xDC00 ≤ unit && unit < 0xE000
  match q.pending with
  | none =>
    if isHigh then { q with escape := .outside, pending := some unit }
    else if isLow then { q with escape := .outside, sound := false }
    else { q with chars := Char.ofNat unit :: q.chars, escape := .outside }
  | some high =>
    if isLow then
      let code := 0x10000 + (high - 0xD800) * 0x400 + (unit - 0xDC00)
      { q with chars := Char.ofNat code :: q.chars, escape := .outside, pending := none }
    else { q with escape := .outside, sound := false }

/-- The text, once the closing quote is there. -/
def text (q : Quotation) : Option String :=
  if q.sound && q.pending.isNone then some (String.ofList q.chars.reverse) else none

/-- The character that a short escape stands for. -/
def shortEscape? (c : Char) : Option Char :=
  match c with
  | '"' => some '"'
  | '\\' => some '\\'
  | '/' => some '/'
  | 'b' => some (Char.ofNat 8)
  | 'f' => some (Char.ofNat 12)
  | 'n' => some '\n'
  | 'r' => some '\r'
  | 't' => some '\t'
  | _ => none

end Quotation

namespace State

/-- A character inside a string. -/
def stepString (st : State) (q : Quotation) (c : Char) : State :=
  match q.escape with
  | .outside =>
    if c = '"' then st.completeString q.text
    else if c = '\\' then { st with phase := .string { q with escape := .afterBackslash } }
    else if c.toNat < 32 then st.fail
    else { st with phase := .string (q.push c) }
  | .afterBackslash =>
    if c = 'u' then { st with phase := .string { q with escape := .unit 4 0 } }
    else match Quotation.shortEscape? c with
      | some meant => { st with phase := .string (q.push meant) }
      | none => st.fail
  | .unit missing value =>
    match Text.hexDigit? c with
    | none => st.fail
    | some d =>
      if missing ≤ 1 then { st with phase := .string (q.pushUnit (16 * value + d)) }
      else { st with phase := .string { q with escape := .unit (missing - 1) (16 * value + d) } }

/-- The first character of a value, or of the closing bracket where one may stand. -/
def stepValue (st : State) (mayClose : Bool) (c : Char) : State :=
  if isSpace c then st
  else match c with
    | '[' => { st with frames := .items [] :: st.frames, phase := .value true }
    | '{' => { st with frames := .members [] :: st.frames, phase := .name true }
    | ']' => if mayClose then st.close ']' else st.fail
    | '"' => { st with phase := .string {} }
    | 'n' => { st with phase := .literal "ull".toList .null }
    | 't' => { st with phase := .literal "rue".toList (.bool true) }
    | 'f' => { st with phase := .literal "alse".toList (.bool false) }
    | '-' => { st with phase := .numeral { stage := .afterMinus, negative := true } }
    | '0' => { st with phase := .numeral { stage := .afterZero, whole := [0] } }
    | _ => match Text.digit? c with
      | some d => { st with phase := .numeral { stage := .whole, whole := [d] } }
      | none => st.fail

/-- A character between a complete value and what follows it. -/
def stepSeparator (st : State) (c : Char) : State :=
  if isSpace c then st
  else match c, st.frames with
    | ',', .items _ :: _ => { st with phase := .value false }
    | ',', .members _ :: _ => { st with phase := .name false }
    | ']', .items _ :: _ => st.close ']'
    | '}', .members _ :: _ => st.close '}'
    | _, _ => st.fail

/-- The end of a numeral: it becomes a value. -/
def completeNumeral (st : State) (draft : NumeralDraft) : State :=
  st.complete (.num draft.numeral.number?)

/-- The character behind a numeral: the numeral becomes a value and the character follows it. -/
def leaveNumeral (st : State) (draft : NumeralDraft) (c : Char) : State :=
  (st.completeNumeral draft).stepSeparator c

/-- A character inside or just after a numeral.  The numeral is as long as its form allows; a
character that cannot belong to it is taken as what follows the value. -/
def stepNumeral (st : State) (draft : NumeralDraft) (c : Char) : State :=
  let go (draft : NumeralDraft) : State := { st with phase := .numeral draft }
  match draft.stage with
  | .afterMinus => match Text.digit? c with
    | some 0 => go { draft with stage := .afterZero, whole := [0] }
    | some d => go { draft with stage := .whole, whole := [d] }
    | none => st.fail
  | .afterZero =>
    if (Text.digit? c).isSome then st.fail
    else if c = '.' then go { draft with stage := .afterPoint, fraction := some [] }
    else if c = 'e' || c = 'E' then go { draft with stage := .afterMark, exponent := some [] }
    else st.leaveNumeral draft c
  | .whole => match Text.digit? c with
    | some d => go { draft with whole := d :: draft.whole }
    | none =>
      if c = '.' then go { draft with stage := .afterPoint, fraction := some [] }
      else if c = 'e' || c = 'E' then go { draft with stage := .afterMark, exponent := some [] }
      else st.leaveNumeral draft c
  | .afterPoint => match Text.digit? c with
    | some d => go { draft with stage := .fraction, fraction := some [d] }
    | none => st.fail
  | .fraction => match Text.digit? c with
    | some d => go { draft with fraction := draft.fraction.map (d :: ·) }
    | none =>
      if c = 'e' || c = 'E' then go { draft with stage := .afterMark, exponent := some [] }
      else st.leaveNumeral draft c
  | .afterMark => match Text.digit? c with
    | some d => go { draft with stage := .exponent, exponent := some [d] }
    | none =>
      if c = '+' then go { draft with stage := .afterSign }
      else if c = '-' then go { draft with stage := .afterSign, exponentNegative := true }
      else st.fail
  | .afterSign => match Text.digit? c with
    | some d => go { draft with stage := .exponent, exponent := some [d] }
    | none => st.fail
  | .exponent => match Text.digit? c with
    | some d => go { draft with exponent := draft.exponent.map (d :: ·) }
    | none => st.leaveNumeral draft c

/-- One character. -/
def step (st : State) (c : Char) : State :=
  match st.phase with
  | .value mayClose => st.stepValue mayClose c
  | .name mayClose =>
    if isSpace c then st
    else if c = '"' then { st with phase := .string {} }
    else if c = '}' && mayClose then st.close '}'
    else st.fail
  | .colon =>
    if isSpace c then st
    else if c = ':' then { st with phase := .value false }
    else st.fail
  | .separator => st.stepSeparator c
  | .literal rest means =>
    match rest with
    | [] => st.fail
    | [last] => if c = last then st.complete means else st.fail
    | next :: more => if c = next then { st with phase := .literal more means } else st.fail
  | .string q => st.stepString q c
  | .numeral draft => st.stepNumeral draft c
  | .stuck => st

/-- The end of the text completes a numeral that may end there. -/
def finish (st : State) : State :=
  match st.phase with
  | .numeral draft =>
    match draft.stage with
    | .afterZero | .whole | .fraction | .exponent => st.completeNumeral draft
    | _ => st.fail
  | _ => st

/-- What a frame holds, with the part that was being read inside it. -/
def unclosed (frame : Frame) (inner : Option Reading) : Reading :=
  match frame with
  | .items done => .arr ((inner.toList ++ done).reverse) false
  | .members done => .obj done.reverse false
  | .named done name => .obj ((name, inner.getD .broken) :: done).reverse false

/-- The reading of everything that was read: the value at the top, or the containers that were
left open around the place where the text stopped making sense. -/
def reading (st : State) : Reading :=
  match st.top with
  | some value => value
  | none =>
    (st.frames.foldl (fun inner frame => some (unclosed frame inner)) none).getD .broken

/-- Whether the text is one complete value and nothing more. -/
def ended (st : State) : Bool :=
  match st.phase with
  | .separator => st.top.isSome
  | _ => false

end State

/-- The reading of a text, and whether the text ends where its value ends. -/
def ofText (cs : List Char) : Reading × Bool :=
  let st := (cs.foldl State.step {}).finish
  (st.reading, st.ended)

mutual

/-- The reading of a value: nothing is broken and every container is closed. -/
def ofJson : Json → Reading
  | .null => .null
  | .bool b => .bool b
  | .num n => .num (some n)
  | .str s => .str (some s)
  | .arr items => .arr (ofItems items) true
  | .obj members => .obj (ofMembers members) true

/-- The readings of items. -/
def ofItems : List Json → List Reading
  | [] => []
  | item :: rest => ofJson item :: ofItems rest

/-- The readings of members. -/
def ofMembers : List (String × Json) → List (Option String × Reading)
  | [] => []
  | (name, value) :: rest => (some name, ofJson value) :: ofMembers rest

end

mutual

/-- Whether a part of a text can be passed over without being used.  Numerals, surrogates and the
depth of nesting do not matter then. -/
def skippable : Reading → Bool
  | .broken => false
  | .null | .bool _ | .num _ | .str _ => true
  | .arr items closed => closed && skippableItems items
  | .obj members closed => closed && skippableMembers members

/-- Every item can be passed over. -/
def skippableItems : List Reading → Bool
  | [] => true
  | item :: rest => item.skippable && skippableItems rest

/-- Every member can be passed over. -/
def skippableMembers : List (Option String × Reading) → Bool
  | [] => true
  | (_, value) :: rest => value.skippable && skippableMembers rest

end

end Reading

end CriteriaSearch
