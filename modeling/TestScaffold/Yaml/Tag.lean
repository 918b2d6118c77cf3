import TestScaffold.Yaml.Number
import TestScaffold.Yaml.Timestamp

/-!
The tags of nodes.

A tag is given, or left to the form of a plain scalar (`impliedTag`): `yes` is
a truth value, `012` an integer, `~` nothing, and what has no such form is a
text.
-/

namespace TestScaffold.Yaml

/-- The tags with a meaning. -/
inductive Tag
  | null
  | bool
  | int
  | float
  | binary
  | timestamp
  | text
  | sequence
  | mapping
  | set
  | orderedMap
  | pairs
  /-- The sign for the entries of another mapping. -/
  | merge
  /-- The sign for the main value of a mapping. -/
  | main
  | other
  deriving DecidableEq, Repr

/-- The text before the names of the standard tags. -/
def standardTags : Text := "tag:yaml.org,2002:".toText

/-- The names of the standard tags. -/
def standardNames : List (Text × Tag) :=
  [("null".toText, .null), ("bool".toText, .bool), ("int".toText, .int),
    ("float".toText, .float), ("binary".toText, .binary),
    ("timestamp".toText, .timestamp), ("str".toText, .text),
    ("seq".toText, .sequence), ("map".toText, .mapping), ("set".toText, .set),
    ("omap".toText, .orderedMap), ("pairs".toText, .pairs),
    ("merge".toText, .merge), ("value".toText, .main)]

def Tag.ofText (s : Text) : Tag :=
  match Text.dropPrefix? standardTags s with
  | none => .other
  | some name => (standardNames.lookup name).getD .other

/-- The words for the truth values. -/
def truthWords : List Text :=
  ["yes", "Yes", "YES", "no", "No", "NO", "true", "True", "TRUE",
    "false", "False", "FALSE", "on", "On", "ON", "off", "Off", "OFF"].map
    String.toText

/-- The words for nothing. -/
def nullWords : List Text := ["~", "null", "Null", "NULL"].map String.toText

/-- The signs that are kept for the format itself. -/
def reservedSigns : List Text := ["!", "&", "*"].map String.toText

/-- The text without a line feed at its very end. -/
def dropLineFeed (s : Text) : Text :=
  if s.getLast? = some (char '\n') then s.dropLast else s

/-- The tag that the form of a plain scalar implies. A line feed at the very
end is not looked at. -/
def impliedTag (ps : Text) : Tag :=
  if ps = [] then .null
  else
    let t := dropLineFeed ps
    if truthWords.contains t then .bool
    else if isDecimal t then .float
    else if isInteger t then .int
    else if t = [char '<', char '<'] then .merge
    else if nullWords.contains t then .null
    else if Timestamp.isPlain t then .timestamp
    else if t = [char '='] then .main
    else if reservedSigns.contains t then .other
    else .text

end TestScaffold.Yaml
