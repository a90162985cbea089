import CriteriaSearch.Json.Basic

/-!
# JSON text

Values are written in two forms.  The compact form has no white space at all.  The indented form
puts every item and every member on a line of its own, two spaces deeper than its container, and
writes an empty container as two brackets.  Characters are written as they are, except quotes,
backslashes and control characters.
-/

namespace CriteriaSearch.Json

/-- A hexadecimal digit in lower case. -/
def hexDigit (n : Nat) : Char :=
  (Nat.digitChar n)

/-- One character of a string in JSON text. -/
def escaped (c : Char) : List Char :=
  if c = '"' then ['\\', '"']
  else if c = '\\' then ['\\', '\\']
  else if c = '\n' then ['\\', 'n']
  else if c = '\t' then ['\\', 't']
  else if c = '\r' then ['\\', 'r']
  else if c.toNat = 8 then ['\\', 'b']
  else if c.toNat = 12 then ['\\', 'f']
  else if c.toNat < 32 then
    ['\\', 'u', '0', '0', hexDigit (c.toNat / 16), hexDigit (c.toNat % 16)]
  else [c]

/-- A string in quotes. -/
def quoted (cs : List Char) : List Char :=
  '"' :: (cs.flatMap escaped ++ ['"'])

/-- The text of the two truth values. -/
def boolText : Bool → List Char
  | true => "true".toList
  | false => "false".toList

mutual

/-- A value without white space. -/
def compactChars : Json → List Char
  | .null => "null".toList
  | .bool b => boolText b
  | .num n => n.text
  | .str s => quoted s.toList
  | .arr items => '[' :: (compactItems items ++ [']'])
  | .obj members => '{' :: (compactMembers members ++ ['}'])

/-- Items separated by commas. -/
def compactItems : List Json → List Char
  | [] => []
  | [item] => item.compactChars
  | item :: next :: rest => item.compactChars ++ ',' :: compactItems (next :: rest)

/-- Members separated by commas. -/
def compactMembers : List (String × Json) → List Char
  | [] => []
  | [(name, value)] => quoted name.toList ++ ':' :: value.compactChars
  | (name, value) :: next :: rest =>
    quoted name.toList ++ ':' :: (value.compactChars ++ ',' :: compactMembers (next :: rest))

end

/-- The compact text of a value. -/
def compact (value : Json) : String :=
  String.ofList value.compactChars

/-- A new line at the given depth. -/
def freshLine (depth : Nat) : List Char :=
  '\n' :: List.replicate (2 * depth) ' '

mutual

/-- A value that starts at the given depth. -/
def indentedChars (depth : Nat) : Json → List Char
  | .null => "null".toList
  | .bool b => boolText b
  | .num n => n.text
  | .str s => quoted s.toList
  | .arr [] => ['[', ']']
  | .arr (item :: rest) =>
    '[' :: (indentedItems (depth + 1) (item :: rest) ++ freshLine depth ++ [']'])
  | .obj [] => ['{', '}']
  | .obj (member :: rest) =>
    '{' :: (indentedMembers (depth + 1) (member :: rest) ++ freshLine depth ++ ['}'])

/-- Items, each on a new line at the given depth. -/
def indentedItems (depth : Nat) : List Json → List Char
  | [] => []
  | [item] => freshLine depth ++ item.indentedChars depth
  | item :: next :: rest =>
    freshLine depth ++ item.indentedChars depth ++ ',' :: indentedItems depth (next :: rest)

/-- Members, each on a new line at the given depth. -/
def indentedMembers (depth : Nat) : List (String × Json) → List Char
  | [] => []
  | [(name, value)] =>
    freshLine depth ++ quoted name.toList ++ ':' :: ' ' :: value.indentedChars depth
  | (name, value) :: next :: rest =>
    freshLine depth ++ quoted name.toList ++ ':' :: ' ' ::
      (value.indentedChars depth ++ ',' :: indentedMembers depth (next :: rest))

end

/-- The indented text of a value. -/
def indented (value : Json) : String :=
  String.ofList (value.indentedChars 0)

end CriteriaSearch.Json
