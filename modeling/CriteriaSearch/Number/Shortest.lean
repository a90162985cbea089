import CriteriaSearch.Number.Decimal

/-!
# The shortest decimal that stands for a double

Every double owns the interval of reals that round to it.  Among the decimals with the fewest
digits inside that interval, `shortest` takes the one nearest to the double itself.  How the
digits are laid out as text is a separate decision, recorded as a `Layout`.
-/

namespace CriteriaSearch

namespace Binary64

/-- Whether a nonnegative rational rounds to the magnitude of `x`.  The ends of the interval
belong to it exactly when `x` has an even position, because a half goes to the even neighbour. -/
def owns (x : Binary64) (r : Rat) : Bool :=
  let (m, q) := x.parts
  let unit : Rat := (2 : Rat) ^ (q - 2)
  let narrow : Bool := m = binade && -1074 < q
  let low : Rat := (if narrow then 4 * m - 1 else 4 * m - 2 : Rat) * unit
  let high : Rat := (4 * m + 2 : Rat) * unit
  if m % 2 = 0 then low ≤ r && r ≤ high else low < r && r < high

/-- How to choose between two decimals of the same length at the same distance. -/
inductive Tie where
  | toEven
  | upward
  deriving DecidableEq

/-- The decimal exponent `e` with `10 ^ e ≤ r < 10 ^ (e + 1)`, for the positive magnitudes of
doubles, none of which lies below `10 ^ (-324)`. -/
def decimalExponent (r : Rat) : Int :=
  let scaled := r * (10 : Rat) ^ (330 : Nat)
  ((Nat.toDigits 10 (scaled.num.natAbs / scaled.den)).length : Int) - 331

/-- The decimal on the grid of spacing `10 ^ grid` that stands for `x`, if a neighbour of `x` on
that grid does. -/
def onGrid? (tie : Tie) (x : Binary64) (grid : Int) : Option Decimal :=
  let spacing : Rat := (10 : Rat) ^ grid
  let ratio := x.magnitude / spacing
  let below := (ratio.floor).toNat
  let above := below + 1
  let lowFits := x.owns (below * spacing)
  let highFits := x.owns (above * spacing)
  let twice := 2 * (ratio - below)
  let takeHigh : Bool :=
    if lowFits && highFits then
      1 < twice || (twice = 1 && (tie = .upward || below % 2 = 1))
    else highFits
  if takeHigh then some ⟨above, grid⟩
  else if lowFits then some ⟨below, grid⟩
  else none

/-- Tries one digit after the other, from `length` digits on, for at most `more` lengths. -/
def shortestFrom (tie : Tie) (x : Binary64) (top : Int) : Nat → Nat → Option Decimal
  | _, 0 => none
  | length, more + 1 =>
    match onGrid? tie x (top - length + 1) with
    | some d => some d
    | none => shortestFrom tie x top (length + 1) more

/-- The shortest decimal that rounds to the magnitude of `x`, the nearest of them to `x`.
Seventeen digits always suffice. -/
def shortest (tie : Tie) (x : Binary64) : Decimal :=
  if x.position.val = 0 then ⟨0, 0⟩
  else (shortestFrom tie x (decimalExponent x.magnitude) 1 17).getD ⟨0, 0⟩

end Binary64

/-- The written form of a double. -/
structure Layout where
  /-- How a choice between two nearest decimals goes. -/
  tie : Binary64.Tie
  /-- The decimal exponents from which, and below which, no exponent is written; without a range
  an exponent is never written. -/
  positional? : Option (Int × Int)
  /-- Whether a number without a fractional part still ends in `.0`. -/
  pointZero : Bool
  deriving DecidableEq

namespace Layout

/-- JSON text writes small and large magnitudes with an exponent and marks every other double by a
fraction, so that it cannot be mistaken for an integer. -/
def json : Layout := ⟨.toEven, some (-5, 16), true⟩

/-- A plain number of seconds is written with all its digits and no needless fraction. -/
def plain : Layout := ⟨.upward, none, false⟩

/-- The digits without the zeros at their end, and how many zeros those were. -/
def significant (digits : List Char) : List Char :=
  (digits.reverse.dropWhile (· = '0')).reverse

/-- Digits laid out around the decimal point; `top` is the exponent of the first digit. -/
def positional (pointZero : Bool) (digits : List Char) (top : Int) : List Char :=
  if top < 0 then
    ['0', '.'] ++ List.replicate ((-top).toNat - 1) '0' ++ digits
  else
    let whole := top.toNat + 1
    if digits.length ≤ whole then
      digits ++ List.replicate (whole - digits.length) '0' ++
        (if pointZero then ['.', '0'] else [])
    else
      digits.take whole ++ ['.'] ++ digits.drop whole

/-- Digits in scientific notation; the sign of the exponent is always written. -/
def scientific (digits : List Char) (top : Int) : List Char :=
  let fraction := digits.drop 1
  digits.take 1 ++ (if fraction.isEmpty then [] else '.' :: fraction) ++
    ['e', if top < 0 then '-' else '+'] ++ Nat.toDigits 10 top.natAbs

/-- The text of a double in this layout. -/
def text (layout : Layout) (x : Binary64) : List Char :=
  let sign := if x.negative then ['-'] else []
  if x.position.val = 0 then
    sign ++ positional layout.pointZero ['0'] 0
  else
    let d := x.shortest layout.tie
    let written := Nat.toDigits 10 d.coefficient
    let top : Int := d.exponent + written.length - 1
    let digits := significant written
    let asPositional : Bool :=
      match layout.positional? with
      | none => true
      | some (low, high) => low ≤ top && top < high
    sign ++ (if asPositional then positional layout.pointZero digits top
      else scientific digits top)

end Layout

/-- The plain text of a double or of one of the values that stand for no number. -/
def Binary64.Extended.text : Binary64.Extended → List Char
  | .finite x => Layout.plain.text x
  | .infinite negative => (if negative then ['-'] else []) ++ "inf".toList
  | .notANumber => "NaN".toList

end CriteriaSearch
