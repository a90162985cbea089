import CriteriaSearch.Domain.Label
import CriteriaSearch.Domain.Mapping
import CriteriaSearch.Text.Punycode

/-!
# Names of hosts

The name of a host may be written in any script.  The network knows names in ASCII only, so a label
with other characters is written in Punycode behind the mark `xn--`.  `asciiName?` gives the ASCII
form of a name, which is the same however the name was written, and none if the text is no name.
-/

namespace CriteriaSearch.Domain

/-- What stands in front of a label in Punycode. -/
def mark : List Char :=
  "xn--".toList

/-- Whether a character is ASCII. -/
def isAscii (c : Char) : Bool :=
  c.toNat < 0x80

/-- The characters that a label stands for.  What is written in Punycode needs to be, it is in
composed form, and its characters are those that a name is mapped to. -/
def shown? (label : List Char) : Option (List Char) :=
  if !mark.isPrefixOf label then some label
  else
    let written := label.drop mark.length
    if 2000 < written.length || !written.all isAscii then none
    else
      (Text.Punycode.decode? written).filter fun shown =>
        !shown.all isAscii && shown.all isKept && Text.compose shown = shown

/-- A label in ASCII.  Labels of more than a thousand characters are not written in Punycode. -/
def asciiLabel? (label : List Char) : Option (List Char) :=
  if label.all isAscii then some label
  else if 1000 < label.length then none
  else some (mark ++ Text.Punycode.encode label)

/-- Whether labels can be read. -/
def areReadable (labels : List (List Char)) : Bool :=
  labels.all (fun label => !startsWithMark label && joinersFit [] label) &&
    (!labels.any (·.any isRightToLeft) || labels.all keepsDirection)

/-- The ASCII form of a name. -/
def asciiName? (name : List Char) : Option (List Char) := do
  let mapped ← name.mapM map?
  let labels := Text.pieces '.' (Text.compose mapped.flatten)
  let shown ← labels.mapM shown?
  if areReadable shown then
    let ascii ← labels.mapM asciiLabel?
    some (Text.joined ['.'] ascii)
  else none

end CriteriaSearch.Domain
