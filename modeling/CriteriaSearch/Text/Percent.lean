import CriteriaSearch.Text.Digits

/-!
# Percent-encoding

A character that must not stand in some part of a URL is written as the bytes of its UTF-8 form,
each byte as a percent sign and two hexadecimal digits.  Which characters may stand for themselves
depends on the part.
-/

namespace CriteriaSearch.Text

/-- A byte as a percent sign and two digits. -/
def percentByte (b : UInt8) : List Char :=
  ['%', hexDigit (b.toNat / 16), hexDigit (b.toNat % 16)]

/-- The text with every character encoded that may not stand for itself. -/
def percentEncode (keeps : Char → Bool) (cs : List Char) : List Char :=
  cs.flatMap fun c => if keeps c then [c] else (String.utf8EncodeChar c).flatMap percentByte

/-- Whether a character is printable ASCII, the space included, and none of the excluded ones. -/
def isPlain (excluded : String) (c : Char) : Bool :=
  0x20 ≤ c.toNat && c.toNat < 0x7F && !excluded.toList.contains c

/-- The bytes that a text stands for.  A percent sign without two digits stands for itself. -/
def percentBytes : List Char → List UInt8
  | [] => []
  | '%' :: a :: b :: rest =>
    match hexDigit? a, hexDigit? b with
    | some high, some low => UInt8.ofNat (16 * high + low) :: percentBytes rest
    | _, _ => String.utf8EncodeChar '%' ++ percentBytes (a :: b :: rest)
  | c :: rest => String.utf8EncodeChar c ++ percentBytes rest

/-- The text that a percent-encoded text stands for, if its bytes are UTF-8. -/
def percentDecode? (cs : List Char) : Option (List Char) :=
  (String.fromUTF8? ⟨(percentBytes cs).toArray⟩).map String.toList

/-- One side of a pair in a query: the letters, the digits and `*-._` stand for themselves and a
space is written as a plus sign. -/
def formEncode (cs : List Char) : List Char :=
  cs.flatMap fun c =>
    if c = ' ' then ['+']
    else percentEncode (fun c => c.isAlphanum || "*-._".toList.contains c) [c]

end CriteriaSearch.Text
