/-!
# Finite double-precision numbers

A finite number of the IEEE 754 format binary64 is a sign together with the position of its
magnitude in the increasing list of all finite magnitudes.  Position `0` is zero, the positions of
the first two binades are evenly spaced, and every further binade doubles the spacing.  Two numbers
of this type are equal exactly when they are the same number with the same sign, so the two zeros
differ.

Every operation is stated on exact rational values and rounded once, to the nearest number and at
a half to the even position.  Nothing depends on the arithmetic of the machine.
-/

namespace CriteriaSearch

/-- How many positions lie between two powers of two, `2 ^ 52`. -/
def Binary64.binade : Nat := 4503599627370496

/-- How many finite magnitudes there are; the position that follows the last of them is the
place of infinity. -/
def Binary64.positions : Nat := 2047 * binade

/-- A finite double-precision number. -/
structure Binary64 where
  negative : Bool
  position : Fin Binary64.positions
  deriving DecidableEq

/-- A double-precision number or one of the values that stand for no number. -/
inductive Binary64.Extended where
  | finite (x : Binary64)
  | infinite (negative : Bool)
  | notANumber
  deriving DecidableEq

namespace Binary64

/-- The zero of the given sign. -/
def zero (negative : Bool) : Binary64 :=
  ⟨negative, ⟨0, by decide⟩⟩

instance : Inhabited Binary64 := ⟨zero false⟩

/-- The two parts `(m, q)` of a magnitude `m * 2 ^ q`, with `m` below `2 ^ 53`. -/
def parts (x : Binary64) : Nat × Int :=
  let band : Nat := x.position.val / binade
  if band = 0 then (x.position.val, -1074)
  else (binade + x.position.val % binade, (band : Int) - 1075)

/-- The magnitude as an exact rational. -/
def magnitude (x : Binary64) : Rat :=
  let (m, q) := x.parts
  (m : Rat) * (2 : Rat) ^ q

/-- The number as an exact rational; both zeros have the value `0`. -/
def value (x : Binary64) : Rat :=
  if x.negative then -x.magnitude else x.magnitude

/-- The same magnitude with the given sign. -/
def withSign (x : Binary64) (negative : Bool) : Binary64 :=
  { x with negative }

/-- The quotient `n / d` rounded to the nearest integer, at a half to the even one. -/
def roundDiv (n d : Nat) : Nat :=
  let quotient := n / d
  let twice := 2 * (n % d)
  if twice < d then quotient
  else if d < twice then quotient + 1
  else quotient + quotient % 2

/-- The position of the magnitude nearest to `n / d`.  The position just past the last finite one
is returned for quotients that are too large, and positions beyond it for still larger ones. -/
def nearestPosition (n d : Nat) : Nat :=
  if n = 0 then 0 else
    let guess : Int := (Nat.log2 n : Int) - Nat.log2 d
    let below : Bool :=
      if 0 ≤ guess then n < d <<< guess.toNat else n <<< (-guess).toNat < d
    let exponent : Int := if below then guess - 1 else guess
    let q : Int := max (exponent - 52) (-1074)
    let m := if 0 ≤ q then roundDiv n (d <<< q.toNat) else roundDiv (n <<< (-q).toNat) d
    (q + 1074).toNat * binade + m

/-- The number nearest to a rational, or nothing when the rational lies beyond all of them.  A
rational that rounds to zero keeps the given sign. -/
def nearest? (negative : Bool) (magnitude : Rat) : Option Binary64 :=
  let position := nearestPosition magnitude.num.natAbs magnitude.den
  if within : position < positions then some ⟨negative, ⟨position, within⟩⟩ else none

/-- The number nearest to an integer.  Integers of 64 bits are far inside the range. -/
def ofInt (n : Int) : Binary64 :=
  (nearest? (n < 0) (n.natAbs : Rat)).getD (zero (n < 0))

/-- The number nearest to `10 ^ n`, for every `n` up to `308`. -/
def powerOfTen? (n : Nat) : Option Binary64 :=
  if n ≤ 308 then nearest? false ((10 : Rat) ^ n) else none

end Binary64

end CriteriaSearch
