import CriteriaSearch.Number.Binary64
import CriteriaSearch.Text.Digits

/-!
# Decimals

A decimal is a natural number times a power of ten.  `Decimal.nearest?` rounds a decimal once and
exactly, whatever the number of its digits.
-/

namespace CriteriaSearch

/-- A decimal number `coefficient * 10 ^ exponent`. -/
structure Decimal where
  coefficient : Nat
  exponent : Int
  deriving DecidableEq, Inhabited

namespace Decimal

/-- The exact value of a decimal. -/
def value (d : Decimal) : Rat :=
  (d.coefficient : Rat) * (10 : Rat) ^ d.exponent

/-- The double of the given sign nearest to a decimal, if the decimal lies inside the range of the
doubles.  The place of the leading digit settles decimals far outside that range, so that no power
beyond it is ever computed. -/
def nearest? (negative : Bool) (d : Decimal) : Option Binary64 :=
  let place : Int := (Nat.toDigits 10 d.coefficient).length + d.exponent
  if d.coefficient = 0 || place < -400 then some (Binary64.zero negative)
  else if 400 < place then none
  else Binary64.nearest? negative d.value

/-- An unsigned decimal as text: digits, perhaps a point with more digits, perhaps an exponent.
Digits may be missing on one side of the point, not on both. -/
def ofText? (cs : List Char) : Option Decimal :=
  let (whole, afterWhole) := Text.spanDigits cs
  let (fraction, afterFraction) := match afterWhole with
    | '.' :: rest => Text.spanDigits rest
    | rest => ([], rest)
  let coefficient := Text.digitsValue 10 (whole ++ fraction)
  if whole.isEmpty && fraction.isEmpty then none
  else match afterFraction with
    | [] => some ⟨coefficient, -fraction.length⟩
    | mark :: rest =>
      let (down, written) := match rest with
        | '-' :: more => (true, more)
        | '+' :: more => (false, more)
        | more => (false, more)
      match Text.spanDigits written with
      | (_ :: _, _ :: _) | ([], _) => none
      | (digits, []) =>
        let shift : Int := Text.digitsValue 10 digits
        if mark = 'e' || mark = 'E' then
          some ⟨coefficient, (if down then -shift else shift) - fraction.length⟩
        else none

end Decimal

end CriteriaSearch
