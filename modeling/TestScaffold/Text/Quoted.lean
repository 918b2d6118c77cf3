import TestScaffold.Text.Numeral
import TestScaffold.Text.Printable

/-!
Quoted texts, as messages and log lines show paths and arguments: between
quotation marks, with an escape for what would be mistaken or not be seen.

* The mark is an apostrophe; a text with an apostrophe and without a quotation
  mark is put between quotation marks.
* The mark itself and the backslash get a backslash; tabulator, line feed and
  carriage return have letters; every other character that is not printable
  is shown by the digits of its code point (`escape`).
-/

namespace TestScaffold.Text

/-- The mark that quotes a text with the fewest escapes. -/
def quoteMark (s : Text) : CodePoint :=
  if char '\x27' ∈ s ∧ char '\x22' ∉ s then char '\x22' else char '\x27'

/-- A character as it stands between two of the given marks. -/
def escape (mark c : CodePoint) : Text :=
  if c = mark ∨ c = char '\\' then [char '\\', c]
  else if c = char '\t' then [char '\\', char 't']
  else if c = char '\n' then [char '\\', char 'n']
  else if c = char '\r' then [char '\\', char 'r']
  else if isPrintable c then [c]
  else if c.toNat < 0x100 then char '\\' :: char 'x' :: hex 2 c.toNat
  else if c.toNat < 0x10000 then char '\\' :: char 'u' :: hex 4 c.toNat
  else char '\\' :: char 'U' :: hex 8 c.toNat

/-- The text between quotation marks. -/
def quote (s : Text) : Text :=
  let mark := quoteMark s
  mark :: s.flatMap (escape mark) ++ [mark]

/-- A list of quoted texts in brackets. -/
def quoteList (ts : List Text) : Text :=
  char '[' :: join [char ',', char ' '] (ts.map quote) ++ [char ']']

end TestScaffold.Text
