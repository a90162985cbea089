import CriteriaSearch.Number.Shortest
import CriteriaSearch.Text.Digits

/-!
# Numbers of JSON documents

A JSON number is either an integer that fits a 64-bit word, signed or unsigned, or a finite
double.  Which of the two a numeral denotes depends on how it is spelled: a fraction, an exponent,
a minus sign on zero or a magnitude beyond the words makes it a double.

Doubles are read by scaling.  The leading digits that fit an unsigned word are taken as an integer
and then multiplied or divided by a power of ten, with one rounding for each of these steps.  A
magnitude beyond the largest double denotes no number.
-/

namespace CriteriaSearch

/-- An integer that fits a 64-bit word, signed or unsigned: from `-2 ^ 63` up to but excluding
`2 ^ 64`. -/
structure WordInt where
  val : Int
  least : -9223372036854775808 ≤ val
  bound : val < 18446744073709551616
  deriving DecidableEq

/-- The integer as a word, if it fits. -/
def WordInt.ofInt? (n : Int) : Option WordInt :=
  if fits : -9223372036854775808 ≤ n ∧ n < 18446744073709551616 then some ⟨n, fits.1, fits.2⟩
  else none

/-- A JSON number. -/
inductive Number where
  | integer (n : WordInt)
  | real (x : Binary64)
  deriving DecidableEq

/-- The parts of a numeral as they are written. -/
structure Numeral where
  negative : Bool
  /-- The digits before the point. -/
  whole : List Nat
  /-- The digits after the point, if there is a point. -/
  fraction : Option (List Nat)
  /-- Whether the exponent is negative, and its digits, if there is an exponent. -/
  exponent : Option (Bool × List Nat)
  deriving DecidableEq

namespace Numeral

/-- Appends digits to an unsigned word for as long as it does not overflow, and returns the digits
that are left. -/
def absorb : Nat → List Nat → Nat × List Nat
  | word, [] => (word, [])
  | word, d :: rest =>
    if 10 * word + d < UInt64.size then absorb (10 * word + d) rest else (word, d :: rest)

/-- The leading digits that fit a word, with the power of ten that belongs to them.  Digits of the
whole part that do not fit still count for the power; those of the fraction are dropped. -/
def scaledDigits (numeral : Numeral) : Nat × Int :=
  let (word, leftover) := absorb 0 numeral.whole
  let fraction := numeral.fraction.getD []
  let (word', dropped) := absorb word fraction
  let written : Int := (fraction.length - dropped.length : Nat)
  let shift : Int := match numeral.exponent with
    | none => 0
    | some (true, digits) => -(Text.digitsValue 10 digits : Int)
    | some (false, digits) => Text.digitsValue 10 digits
  (word', leftover.length - written + shift)

/-- One exact product or quotient with a power of ten up to `10 ^ 308`, rounded. -/
def scaleOnce (x : Binary64) (up : Bool) (power : Nat) : Option Binary64 := do
  let ten ← Binary64.powerOfTen? power
  let exact := if up then x.magnitude * ten.magnitude else x.magnitude / ten.magnitude
  Binary64.nearest? x.negative exact

/-- A double times a power of ten.  Powers beyond the doubles are applied in steps downward; a
nonzero double times such a power upward has no value. -/
def scale (x : Binary64) (power : Int) : Option Binary64 :=
  if x.position.val = 0 then some x
  else if power.natAbs ≤ 308 then scaleOnce x (0 ≤ power) power.natAbs
  else if 0 ≤ power then none
  else do
    let smaller ← scaleOnce x false 308
    scale smaller (power + 308)
termination_by power.natAbs
decreasing_by omega

/-- The double that a numeral denotes. -/
def real? (numeral : Numeral) : Option Binary64 :=
  let (word, power) := numeral.scaledDigits
  (scale (Binary64.ofInt word) power).map (·.withSign numeral.negative)

/-- The number that a numeral denotes. -/
def number? (numeral : Numeral) : Option Number :=
  let integer? : Option WordInt :=
    if numeral.fraction.isSome || numeral.exponent.isSome then none
    else
      let n : Int := Text.digitsValue 10 numeral.whole
      if numeral.negative then (if n = 0 then none else WordInt.ofInt? (-n))
      else WordInt.ofInt? n
  match integer? with
  | some n => some (.integer n)
  | none => numeral.real?.map .real

end Numeral

namespace Number

/-- The decimal text of an integer. -/
def intText (n : Int) : List Char :=
  (if n < 0 then ['-'] else []) ++ Nat.toDigits 10 n.natAbs

/-- The text of a number: integers plainly, doubles so that they cannot be taken for integers. -/
def text : Number → List Char
  | .integer n => intText n.val
  | .real x => Layout.json.text x

/-- The number as a double; an integer becomes the nearest one. -/
def toBinary64 : Number → Binary64
  | .integer n => Binary64.ofInt n.val
  | .real x => x

end Number

end CriteriaSearch
