import TestScaffold.Text.Utf8
import TestScaffold.Yaml.Cursor

/-!
The tokens of a YAML text that stand for names and texts: directives, anchors,
tags and scalars of all styles. Each reader takes a place in the text and
gives the token and the place after it.

* `Token` lists all tokens, also those that only mark structure;
* `readQuoted`, `readPlain` and `readBlock` read scalars and fold their line
  breaks: a single break between lines with text becomes a space, and of more
  than one the first is dropped.
-/

namespace TestScaffold.Yaml

/-- A tag as it is written: a handle, if there is one, and what follows. -/
structure TagName where
  handle : Option Text
  suffix : Text
  deriving DecidableEq, Repr

/-- A line that begins with a percent sign. -/
inductive Directive
  | version (major minor : Nat)
  | handle (name : Text) (stands : Text)
  | other
  deriving DecidableEq, Repr

/-- The tokens. A scalar is plain if it is written without quotation marks and
not as a block of lines. -/
inductive Token
  | directive (d : Directive)
  | documentStart
  | documentEnd
  | blockSequence
  | blockMapping
  | blockEnd
  | openSequence
  | closeSequence
  | openMapping
  | closeMapping
  | comma
  | dash
  | key
  | value
  | alias (name : Text)
  | anchor (name : Text)
  | tag (name : TagName)
  | scalar (plain : Bool) (text : Text)
  deriving DecidableEq, Repr

/-! ### Names -/

/-- The name after the sign of an anchor or an alias. -/
def readAnchor (c : Cursor) : Except Stop (Text × Cursor) :=
  let (name, c) := c.next.span isNameChar
  if name ≠ [] ∧ (endsWord (c.peek 0) ∨
      (c.peek 0).any fun ch => "?:,]\x7d%@`".toText.elem ch) then
    .ok (name, c)
  else c.refuse

/-- The characters of the text of a tag. -/
def isTagChar (c : CodePoint) : Bool :=
  isNameChar c || ";/?:@&=+$,.!~*'()[]%".toText.elem c

/-- The octets that the escapes at the beginning of a text stand for. -/
def readOctets : Nat → Cursor → Except Stop (List UInt8 × Cursor)
  | 0, c => c.refuse
  | fuel + 1, c =>
    if c.peek 0 ≠ some (char '%') then .ok ([], c)
    else
      match (c.peek 1).bind Text.hexValue?, (c.peek 2).bind Text.hexValue? with
      | some a, some b =>
        match readOctets fuel (c.forward 3) with
        | .ok (more, c) => .ok (UInt8.ofNat (a * 16 + b) :: more, c)
        | .error e => .error e
      | _, _ => c.refuse

/-- The text of a tag, possibly empty, with its escapes replaced. -/
def readTagTextWithin : Nat → Cursor → Except Stop (Text × Cursor)
  | 0, c => c.refuse
  | fuel + 1, c =>
    let (run, c) := c.span fun ch => isTagChar ch && ch != char '%'
    if c.peek 0 ≠ some (char '%') then .ok (run, c)
    else
      match readOctets (c.rest.length + 1) c with
      | .error e => .error e
      | .ok (octets, c) =>
        match Utf8.decode octets with
        | .error _ => c.refuse
        | .ok s => do
          let (more, c) ← readTagTextWithin fuel c
          return (run ++ s ++ more, c)

/-- The text of a tag, which has at least one character. -/
def readTagText (c : Cursor) : Except Stop (Text × Cursor) :=
  match readTagTextWithin (c.rest.length + 1) c with
  | .ok (s, c') =>
    if c'.index = c.index then c.refuse else .ok (s, c')
  | .error e => .error e

/-- A tag handle: `!`, `!!` or a name between two signs. -/
def readHandle (c : Cursor) : Except Stop (Text × Cursor) :=
  if c.peek 0 ≠ some (char '!') then c.refuse
  else if c.peek 1 = some (char ' ') then .ok ([char '!'], c.next)
  else
    let (name, c) := c.next.span isNameChar
    if c.peek 0 = some (char '!') then .ok (char '!' :: name ++ [char '!'], c.next)
    else c.refuse

/-- A tag. Between `!<` and `>` it is given in full; a sign alone stands for
the tag that the content asks for. -/
def readTag (c : Cursor) : Except Stop (TagName × Cursor) :=
  let named : Except Stop (TagName × Cursor) :=
    if c.peek 1 = some (char '<') then
      match readTagText (c.forward 2) with
      | .error e => .error e
      | .ok (s, c) =>
        if c.peek 0 = some (char '>') then .ok (⟨none, s⟩, c.next)
        else c.refuse
    else if endsWord (c.peek 1) then .ok (⟨none, [char '!']⟩, c.next)
    else
      let word := c.next.rest.takeWhile fun ch => !(ch == char ' ' || isBreak ch)
      let handled : Except Stop (Text × Cursor) :=
        if word.elem (char '!') then readHandle c else .ok ([char '!'], c.next)
      match handled with
      | .error e => .error e
      | .ok (h, c) =>
        match readTagText c with
        | .ok (s, c) => .ok (⟨some h, s⟩, c)
        | .error e => .error e
  match named with
  | .error e => .error e
  | .ok (t, c) => if endsItem (c.peek 0) then .ok (t, c) else c.refuse

/-! ### Directives -/

/-- A number in a directive. -/
def readNumber (c : Cursor) : Except Stop (Nat × Cursor) :=
  let (digits, c) := c.span fun ch => char '0' ≤ ch && ch ≤ char '9'
  if digits = [] then c.refuse
  else if digitMax < digits.length then
    .error ⟨.integerTooLong digits.length, c.index⟩
  else .ok (Text.value 10 digits, c)

/-- The numbers of a version. -/
def readVersion (c : Cursor) : Except Stop (Directive × Cursor) := do
  let (major, c) ← readNumber c.skipSpaces
  if c.peek 0 ≠ some (char '.') then c.refuse
  else
    let (minor, c) ← readNumber c.next
    if endsItem (c.peek 0) then .ok (.version major minor, c)
    else c.refuse

/-- A tag handle and the text that it stands for. -/
def readHandleRule (c : Cursor) : Except Stop (Directive × Cursor) := do
  let (name, c) ← readHandle c.skipSpaces
  if c.peek 0 ≠ some (char ' ') then c.refuse
  else
    let (stands, c) ← readTagText c.skipSpaces
    if endsItem (c.peek 0) then .ok (.handle name stands, c)
    else c.refuse

/-- A directive, with the end of its line. -/
def readDirective (c : Cursor) : Except Stop (Directive × Cursor) := do
  let (name, c) := c.next.span isNameChar
  if name = [] ∨ !endsItem (c.peek 0) then c.refuse
  else
    let (d, c) ←
      if name = "YAML".toText then readVersion c
      else if name = "TAG".toText then readHandleRule c
      else .ok (.other, c.skip (!isBreak ·))
    return (d, ← c.finishLine)

/-! ### Scalars between quotation marks -/

/-- The characters that a letter after a backslash stands for. -/
def escapeOf : CodePoint → Option CodePoint
  | char '0' => some (char '\x00')
  | char 'a' => some (char '\x07')
  | char 'b' => some (char '\x08')
  | char 't' => some (char '\t')
  | char '\t' => some (char '\t')
  | char 'n' => some (char '\n')
  | char 'v' => some (char '\x0B')
  | char 'f' => some (char '\x0C')
  | char 'r' => some (char '\r')
  | char 'e' => some (char '\x1B')
  | char ' ' => some (char ' ')
  | char '\x22' => some (char '\x22')
  | char '\\' => some (char '\\')
  | char '/' => some (char '/')
  | char 'N' => some (char '\u0085')
  | char '_' => some (char '\u00A0')
  | char 'L' => some (char '\u2028')
  | char 'P' => some (char '\u2029')
  | _ => none

/-- How many digits follow a letter after a backslash. -/
def escapeWidth : CodePoint → Option Nat
  | char 'x' => some 2
  | char 'u' => some 4
  | char 'U' => some 8
  | _ => none

/-- The line breaks from the beginning of a line on, past blank lines. -/
def readBreaks : Nat → Cursor → Except Stop (Text × Cursor)
  | 0, c => c.refuse
  | fuel + 1, c =>
    if c.atSeparator then c.refuse
    else
      let c := c.skip fun ch => ch == char ' ' || ch == char '\t'
      match c.readBreak? with
      | none => .ok ([], c)
      | some (b, c) =>
        match readBreaks fuel c with
        | .ok (more, c) => .ok (b :: more, c)
        | .error e => .error e

/-- What a line break and the breaks of the blank lines after it become. -/
def foldBreaks (first : CodePoint) (more : Text) : Text :=
  if first ≠ char '\n' then first :: more
  else if more = [] then [char ' ']
  else more

/-- What an escape stands for, and the place after it; the place before is
after the backslash. -/
def readEscape (c : Cursor) : Except Stop (Text × Cursor) :=
  match c.peek 0 with
  | none => c.refuse
  | some ch =>
    match escapeOf ch, escapeWidth ch with
    | some e, _ => .ok ([e], c.next)
    | none, some width =>
      let digits := c.next.rest.take width
      if digits.length = width ∧ digits.all (Text.hexValue? · |>.isSome) then
        let n := Text.value 16 digits
        if n < 0x110000 then .ok ([CodePoint.ofNat n], c.forward (width + 1))
        else .error ⟨.noCodePoint n, c.index⟩
      else c.refuse
    | none, none =>
      match c.readBreak? with
      | some (_, c) => do
        let (bs, c) ← readBreaks (c.rest.length + 1) c
        return (bs, c)
      | none => c.refuse

/-- The text up to the closing mark, and the place after that. In a text
between apostrophes two of them stand for one; between quotation marks the
backslash escapes. -/
def readQuotedWithin (double : Bool) :
    Nat → Cursor → Except Stop (Text × Cursor)
  | 0, c => c.refuse
  | fuel + 1, c =>
    let more (s : Text) (c : Cursor) :
        Except Stop (Text × Cursor) :=
      match readQuotedWithin double fuel c with
      | .ok (t, c) => .ok (s ++ t, c)
      | .error e => .error e
    match c.peek 0 with
    | none => c.refuse
    | some ch =>
      if ch = char '\x27' ∧ !double then
        if c.peek 1 = some (char '\x27') then more [char '\x27'] (c.forward 2)
        else .ok ([], c.next)
      else if ch = char '\x22' ∧ double then .ok ([], c.next)
      else if ch = char '\\' ∧ double then
        match readEscape c.next with
        | .ok (s, c) => more s c
        | .error e => .error e
      else if ch = char ' ' ∨ ch = char '\t' ∨ isBreak ch then
        let (blanks, c) := c.span fun ch => ch == char ' ' || ch == char '\t'
        match c.readBreak? with
        | none => more (blanks) c
        | some (b, c) =>
          match readBreaks (c.rest.length + 1) c with
          | .ok (bs, c) => more (foldBreaks b bs) c
          | .error e => .error e
      else more [ch] c.next

/-- A text between quotation marks, from the opening one on. -/
def readQuoted (double : Bool) (c : Cursor) :
    Except Stop (Text × Cursor) :=
  readQuotedWithin double (c.rest.length + 1) c.next

/-! ### Plain scalars -/

/-- The run of characters of a plain scalar within a line. A colon belongs to
it unless a blank follows, and inside brackets also unless a bracket or a comma
follows. -/
def plainRun (flow : Bool) : Text → Text
  | [] => []
  | ch :: rest =>
    let colonEnds :=
      endsWord rest.head? ||
        (flow && rest.head?.any fun d => ",[]\x7b\x7d".toText.elem d)
    if endsWord (some ch) || (ch == char ':' && colonEnds) ||
        (flow && ",?[]\x7b\x7d".toText.elem ch) then []
    else ch :: plainRun flow rest

/-- The line breaks and the indentation of blank lines in a plain scalar, up
to a line that separates documents. -/
def readPlainBreaks : Nat → Cursor → Text × Bool × Cursor
  | 0, c => ([], false, c)
  | fuel + 1, c =>
    let c := c.skipSpaces
    match c.readBreak? with
    | none => ([], false, c)
    | some (b, c) =>
      if c.atSeparator then ([b], true, c)
      else
        let (more, stop, c) := readPlainBreaks fuel c
        (b :: more, stop, c)

/-- The blanks after a run of a plain scalar: what they become, whether they
contain a line break, and the place after them. They become nothing where the
scalar ends. -/
def readPlainBlanks (c : Cursor) : Text × Bool × Cursor :=
  let (blanks, c) := c.span (· == char ' ')
  match c.readBreak? with
  | none => (blanks, false, c)
  | some (b, c) =>
    if c.atSeparator then ([], true, c)
    else
      let (bs, stop, c) := readPlainBreaks (c.rest.length + 1) c
      if stop then ([], true, c) else (foldBreaks b bs, true, c)

/-- A plain scalar, whether a line break comes after it, and the place there.
Outside brackets its lines are at least at the column `indent`. -/
def readPlainWithin (flow : Bool) (indent : Nat) :
    Nat → Cursor → Text × Bool × Cursor
  | 0, c => ([], false, c)
  | fuel + 1, c =>
    let run := plainRun flow c.rest
    let (blanks, broken, c) := readPlainBlanks (c.forward run.length)
    if blanks = [] ∨ c.peek 0 = some (char '#') ∨ (!flow ∧ c.column < indent) ∨
        plainRun flow c.rest = [] then
      (run, broken, c)
    else
      let (more, broken, c) := readPlainWithin flow indent fuel c
      (run ++ blanks ++ more, broken, c)

def readPlain (flow : Bool) (indent : Nat) (c : Cursor) : Text × Bool × Cursor :=
  readPlainWithin flow indent (c.rest.length + 1) c

/-! ### Scalars as blocks of lines -/

/-- What becomes of the line breaks at the end of a block. -/
inductive Chomp
  | clip
  | strip
  | keep
  deriving DecidableEq, Repr

/-- The signs after the one that opens a block: what becomes of its end, and
its indentation, if it is given. -/
def readBlockHeader (c : Cursor) :
    Except Stop (Chomp × Option Nat × Cursor) :=
  let chompAt (c : Cursor) : Chomp × Cursor :=
    if c.peek 0 = some (char '+') then (.keep, c.next)
    else if c.peek 0 = some (char '-') then (.strip, c.next)
    else (.clip, c)
  let digitAt (c : Cursor) : Option Nat × Cursor :=
    match c.peek 0 with
    | some d =>
      if char '0' ≤ d ∧ d ≤ char '9' then (some (d.toNat - '0'.toNat), c.next)
      else (none, c)
    | none => (none, c)
  let (chomp, c₁) := chompAt c
  let (width, c₂) := digitAt c₁
  let (chomp, c₃) := if chomp = .clip then chompAt c₂ else (chomp, c₂)
  if width = some 0 ∨ !endsItem (c₃.peek 0) then c.refuse
  else .ok (chomp, width, c₃)

/-- The line breaks before the first line with text, and the deepest column
that spaces reach there. -/
def readBlockIndent : Nat → Cursor → Text × Nat × Cursor
  | 0, c => ([], 0, c)
  | fuel + 1, c =>
    let c := c.skipSpaces
    match c.readBreak? with
    | none => ([], c.column, c)
    | some (b, c') =>
      let (bs, deepest, c') := readBlockIndent fuel c'
      (b :: bs, max c.column deepest, c')

/-- The spaces up to a column. -/
def skipIndent (indent : Nat) : Nat → Cursor → Cursor
  | 0, c => c
  | fuel + 1, c =>
    if c.column < indent ∧ c.peek 0 = some (char ' ') then skipIndent indent fuel c.next
    else c

/-- The line breaks of blank lines, and the indentation after them. -/
def readBlockBreaks (indent : Nat) : Nat → Cursor → Text × Cursor
  | 0, c => ([], c)
  | fuel + 1, c =>
    let c := skipIndent indent indent c
    match c.readBreak? with
    | none => ([], c)
    | some (b, c) =>
      let (bs, c) := readBlockBreaks indent fuel c
      (b :: bs, c)

/-- Whether a line of a block begins here that has no further indentation. -/
def startsFlush (c : Cursor) : Bool :=
  !(c.peek 0 == some (char ' ') || c.peek 0 == some (char '\t'))

/-- The lines of a block from the text of the first one on. In a folded block
a break between two lines without further indentation becomes a space. -/
def readBlockLines (folded : Bool) (chomp : Chomp) (indent : Nat) :
    Nat → Cursor → Text × Cursor
  | 0, c => ([], c)
  | fuel + 1, c =>
    let flush := startsFlush c
    let (line, c) := c.span (!isBreak ·)
    let ending : Text := ((c.readBreak?).map (·.1)).toList
    let (bs, c) := readBlockBreaks indent (c.rest.length + 1) c.skipBreak
    if c.column = indent ∧ c.rest ≠ [] then
      let glue : Text :=
        if folded ∧ ending = [char '\n'] ∧ flush ∧ startsFlush c then
          if bs = [] then [char ' '] else []
        else ending
      let (more, c) := readBlockLines folded chomp indent fuel c
      (line ++ glue ++ bs ++ more, c)
    else
      (line ++ (if chomp = .strip then [] else ending) ++
        (if chomp = .keep then bs else []), c)

/-- A block of lines, from the sign that opens it on. It is indented more than
`parent`, the column of what it stands in, if there is one. -/
def readBlock (folded : Bool) (parent : Int) (c : Cursor) :
    Except Stop (Text × Cursor) := do
  let (chomp, width, c) ← readBlockHeader c.next
  let c ← c.finishLine
  let least := (max (parent + 1) 1).toNat
  let (bs, indent, c) :=
    match width with
    | some w =>
      let indent := least + w - 1
      let (bs, c) := readBlockBreaks indent (c.rest.length + 1) c
      (bs, indent, c)
    | none =>
      let (bs, deepest, c) := readBlockIndent (c.rest.length + 1) c
      (bs, max least deepest, c)
  if c.column = indent ∧ c.rest ≠ [] then
    let (s, c) := readBlockLines folded chomp indent (c.rest.length + 1) c
    return (bs ++ s, c)
  else return (if chomp = .keep then bs else [], c)

end TestScaffold.Yaml
