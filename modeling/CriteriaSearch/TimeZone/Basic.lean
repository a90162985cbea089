import CriteriaSearch.Text.Blank
import CriteriaSearch.TimeZone.Names

/-!
# Choosing a time zone

Dates of a request are meant in a time zone.  A request may name one; a blank name is no name, and
without a name the local zone is meant.  The local zone is the one that the environment names, if
that is a known zone, and otherwise the zone of the system.
-/

namespace CriteriaSearch.TimeZone

/-- Whether a name is a known time zone. -/
def isKnown (name : String) : Bool :=
  names.contains name

/-- The name of the local zone.  Colons in front of the name in the environment are not part of
it. -/
def localName (environment : Option String) (system : String) : String :=
  match environment with
  | none => system
  | some value =>
    let name := String.ofList (value.toList.dropWhile (· = ':'))
    if isKnown name then name else system

/-- The zone that a name asks for, the local one if there is no name.  An unknown name is the
error. -/
def resolve (localZone : String) (name : Option String) : Except String String :=
  match name.map Text.trimmed with
  | none => .ok localZone
  | some wanted =>
    if wanted = "" then .ok localZone
    else if isKnown wanted then .ok wanted
    else .error wanted

end CriteriaSearch.TimeZone
