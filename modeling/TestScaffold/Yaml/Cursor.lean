import TestScaffold.Yaml.Fault

/-!
A place in a YAML text: the characters that follow, and how far it is from the
beginning of the text and of its line.

* A line ends at a line feed, a carriage return, U+0085, U+2028 or U+2029;
  the first three are read as a line feed, the last two as themselves.
* `Cursor.next` goes on by one character; `span` by a run of characters.
-/

namespace TestScaffold.Yaml

/-- The characters that end a line. -/
def isBreak (c : CodePoint) : Bool :=
  c == char '\n' || c == char '\r' || c == char '\u0085' || c == char '\u2028' || c == char '\u2029'

/-- Whether the line ends here. -/
def endsLine (c? : Option CodePoint) : Bool := c?.all isBreak

/-- Whether a space, or the end of the line, is here. -/
def endsItem (c? : Option CodePoint) : Bool := c?.all fun c => c == char ' ' || isBreak c

/-- Whether a space, a tabulator, or the end of the line is here. -/
def endsWord (c? : Option CodePoint) : Bool :=
  c?.all fun c => c == char ' ' || c == char '\t' || isBreak c

/-- The letters of names: of anchors, of tag handles and of directives. -/
def isNameChar (c : CodePoint) : Bool :=
  (char '0' ≤ c && c ≤ char '9') || (char 'A' ≤ c && c ≤ char 'Z') ||
    (char 'a' ≤ c && c ≤ char 'z') || c == char '-' || c == char '_'

/-- A fault and the place where it is noticed, by the number of characters
before it. -/
structure Stop where
  fault : Fault
  index : Nat
  deriving DecidableEq, Repr

/-- A place in a text. -/
structure Cursor where
  rest : Text
  index : Nat
  line : Nat
  column : Nat

namespace Cursor

def start (s : Text) : Cursor := ⟨s, 0, 0, 0⟩

/-- What stands here follows no rule. -/
def refuse {α : Type} (c : Cursor) : Except Stop α := .error ⟨.malformed, c.index⟩

/-- The character `n` places further on. -/
def peek (c : Cursor) (n : Nat) : Option CodePoint := c.rest[n]?

/-- One character further on. A mark of the byte order takes no column. -/
def next (c : Cursor) : Cursor :=
  match c.rest with
  | [] => c
  | ch :: rest =>
    if isBreak ch ∧ ¬(ch = char '\r' ∧ rest.head? = some (char '\n')) then
      ⟨rest, c.index + 1, c.line + 1, 0⟩
    else if ch = char '\uFEFF' then ⟨rest, c.index + 1, c.line, c.column⟩
    else ⟨rest, c.index + 1, c.line, c.column + 1⟩

def forward : Nat → Cursor → Cursor
  | 0, c => c
  | n + 1, c => forward n c.next

/-- The run of characters with a property, and the place after it. -/
def span (p : CodePoint → Bool) (c : Cursor) : Text × Cursor :=
  let run := c.rest.takeWhile p
  (run, c.forward run.length)

/-- The place after a run of characters. -/
def skip (p : CodePoint → Bool) (c : Cursor) : Cursor := (c.span p).2

def skipSpaces (c : Cursor) : Cursor := c.skip (· == char ' ')

/-- The place after a comment, if one begins here. -/
def skipComment (c : Cursor) : Cursor :=
  if c.peek 0 = some (char '#') then c.skip (!isBreak ·) else c

/-- The line break that is here, as it is read, and the place after it. -/
def readBreak? (c : Cursor) : Option (CodePoint × Cursor) :=
  match c.rest with
  | char '\r' :: char '\n' :: _ => some (char '\n', c.forward 2)
  | ch :: _ =>
    if ch = char '\u2028' ∨ ch = char '\u2029' then some (ch, c.next)
    else if isBreak ch then some (char '\n', c.next)
    else none
  | [] => none

/-- The place after the line break that is here, if one is. -/
def skipBreak (c : Cursor) : Cursor :=
  match c.readBreak? with
  | some (_, c') => c'
  | none => c

/-- Whether three given characters stand here as a word. -/
def atMarker (c : Cursor) (mark : CodePoint) : Bool :=
  c.peek 0 == some mark && c.peek 1 == some mark && c.peek 2 == some mark &&
    endsWord (c.peek 3)

/-- Whether a line begins here that separates documents. -/
def atSeparator (c : Cursor) : Bool := c.atMarker (char '-') || c.atMarker (char '.')

/-- The end of a line that has nothing more than a comment. -/
def finishLine (c : Cursor) : Except Stop Cursor :=
  let c := c.skipSpaces.skipComment
  if endsLine (c.peek 0) then .ok c.skipBreak else c.refuse

end Cursor

end TestScaffold.Yaml
