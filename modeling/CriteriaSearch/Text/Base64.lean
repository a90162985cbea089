/-!
# Base64

Three bytes are written as four characters, each of which stands for six bits.  One or two bytes
that are left over are filled up with equals signs.
-/

namespace CriteriaSearch.Text

/-- The character for six bits. -/
def base64Char (n : Nat) : Char :=
  if n < 26 then Char.ofNat ('A'.toNat + n)
  else if n < 52 then Char.ofNat ('a'.toNat + (n - 26))
  else if n < 62 then Char.ofNat ('0'.toNat + (n - 52))
  else if n = 62 then '+'
  else '/'

/-- Bytes as text. -/
def base64 : List UInt8 → List Char
  | [] => []
  | [a] =>
    let n := a.toNat <<< 16
    [base64Char (n >>> 18), base64Char (n >>> 12 % 64), '=', '=']
  | [a, b] =>
    let n := a.toNat <<< 16 + b.toNat <<< 8
    [base64Char (n >>> 18), base64Char (n >>> 12 % 64), base64Char (n >>> 6 % 64), '=']
  | a :: b :: c :: rest =>
    let n := a.toNat <<< 16 + b.toNat <<< 8 + c.toNat
    base64Char (n >>> 18) :: base64Char (n >>> 12 % 64) :: base64Char (n >>> 6 % 64) ::
      base64Char (n % 64) :: base64 rest

end CriteriaSearch.Text
