import CriteriaSearch.Text.Pieces

/-!
# Punycode

Punycode writes any text with letters, digits and hyphens.  The ASCII characters come first, with a
hyphen behind them if there are any.  The others are put in by ascending code points, and each one
is given by a number: how many steps it takes to get to it from the one before, counting every place
of the text for every code point between them.

A number is a row of digits, the lowest one first.  Below a threshold a digit is the last one.  The
thresholds depend on a bias that follows the size of the numbers.
-/

namespace CriteriaSearch.Text.Punycode

/-- The digit for a value below thirty-six. -/
def digitChar (value : Nat) : Char :=
  Char.ofNat (if value < 26 then 0x61 + value else 0x16 + value)

/-- The value of a digit: a letter in either case, or a decimal digit. -/
def digit? (c : Char) : Option Nat :=
  let code := c.toNat
  if 0x61 ≤ code && code ≤ 0x7A then some (code - 0x61)
  else if 0x41 ≤ code && code ≤ 0x5A then some (code - 0x41)
  else if 0x30 ≤ code && code ≤ 0x39 then some (code - 0x16)
  else none

/-- The threshold of a digit, where `place` is thirty-six for the first digit and that much more for
each one behind it. -/
def threshold (place bias : Nat) : Nat :=
  min 26 (max 1 (place - bias))

/-- Divides a number until it is small; `place` grows with every division. -/
def reduce (n place : Nat) : Nat × Nat :=
  if 455 < n then reduce (n / 35) (place + 36) else (n, place)
termination_by n

/-- The bias after a number, where `count` characters are in the text. -/
def adapt (number count : Nat) (isFirst : Bool) : Nat :=
  let halved := if isFirst then number / 700 else number / 2
  let (n, place) := reduce (halved + halved / count) 0
  place + 36 * n / (n + 38)

/-- The digits of a number. -/
def digits (bias place number : Nat) : List Char :=
  let t := threshold place bias
  if number < t then [digitChar number]
  else
    digitChar (t + (number - t) % (36 - t)) ::
      digits bias (place + 36) ((number - t) / (36 - t))
termination_by number
decreasing_by
  have : 1 ≤ threshold place bias := by unfold threshold; omega
  have := Nat.div_le_self (number - threshold place bias) (36 - threshold place bias)
  omega

/-- Reads a number, and returns what is behind it. -/
def number? (bias : Nat) : (place weight : Nat) → List Char → Option (Nat × List Char)
  | _, _, [] => none
  | place, weight, c :: rest => do
    let digit ← digit? c
    let t := threshold place bias
    if digit < t then some (digit * weight, rest)
    else
      let (higher, behind) ← number? bias (place + 36) (weight * (36 - t)) rest
      some (digit * weight + higher, behind)

/-- A number has at least one digit. -/
theorem number?_length {bias place weight n : Nat} {cs rest : List Char}
    (read : number? bias place weight cs = some (n, rest)) : rest.length < cs.length := by
  induction cs generalizing place weight n with
  | nil => cases read
  | cons c behind ih =>
      rcases Option.bind_eq_some_iff.1 read with ⟨digit, -, read⟩
      dsimp only at read
      split at read
      · cases read
        exact Nat.lt_succ_self _
      · rcases Option.bind_eq_some_iff.1 read with ⟨⟨higher, left⟩, later, read⟩
        cases read
        exact Nat.lt_succ_of_lt (ih later)

/-- Puts the characters into a text that numbers stand for.  `code` is the code point of the
character before, and `place` the place behind it. -/
def insert? (bias code place : Nat) (out : List Char) (cs : List Char) : Option (List Char) :=
  if cs.isEmpty then some out
  else
    match _ : number? bias 36 1 cs with
    | none => none
    | some (number, rest) =>
      let count := out.length + 1
      let steps := place + number
      let code := code + steps / count
      if code.isValidChar then
        insert? (adapt number count (place = 0)) code (steps % count + 1)
          (out.insertIdx (steps % count) (Char.ofNat code)) rest
      else none
termination_by cs.length
decreasing_by exact number?_length ‹_›

/-- The text that is written as another one. -/
def decode? (cs : List Char) : Option (List Char) :=
  let behind := (cs.reverse.takeWhile (· ≠ '-')).reverse
  let plain := cs.take (cs.length - behind.length - 1)
  insert? 72 0x80 0 plain behind

/-- A text that is being written. -/
structure Writer where
  out : List Char
  /-- The steps since the last character that was put in. -/
  steps : Nat := 0
  bias : Nat := 72
  /-- How many characters have been put in, those in front included. -/
  count : Nat
  isFirst : Bool := true

/-- Passes a character of the text while those with the code point `code` are put in. -/
def Writer.pass (code : Nat) (writer : Writer) (c : Char) : Writer :=
  if c.toNat < code then { writer with steps := writer.steps + 1 }
  else if code < c.toNat then writer
  else
    let count := writer.count + 1
    { out := writer.out ++ digits writer.bias 36 writer.steps
      steps := 0
      bias := adapt writer.steps count writer.isFirst
      count
      isFirst := false }

/-- Puts in the characters of a text that are not ASCII, with the code points `codes`, which are
greater than `before` and ascending. -/
def Writer.run (cs : List Char) : (before : Nat) → (codes : List Nat) → Writer → Writer
  | _, [], writer => writer
  | before, code :: codes, writer =>
    let start := { writer with
      steps := writer.steps + (code - before) * (writer.count + 1) }
    let passed := cs.foldl (Writer.pass code) start
    run cs (code + 1) codes { passed with steps := passed.steps + 1 }

/-- The text written as another one. -/
def encode (cs : List Char) : List Char :=
  let plain := cs.filter fun c => c.toNat < 0x80
  let codes := ((cs.map Char.toNat).filter (0x80 ≤ ·)).mergeSort.eraseReps
  let front := if plain.isEmpty then [] else plain ++ ['-']
  (Writer.run cs 0x80 codes { out := front, count := plain.length }).out

end CriteriaSearch.Text.Punycode
