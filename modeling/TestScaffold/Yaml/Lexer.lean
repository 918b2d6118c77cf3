import TestScaffold.Yaml.Source
import TestScaffold.Yaml.Token

/-!
The tokens of a YAML text, with the structure that its indentation shows.

Most of a block structure is not written: a mapping begins where its first key
turns out to be one, which is only seen at the colon after it. So each token
that could be such a key is noted as a `Candidate`, with the number of tokens
before it, and at the colon the missing tokens are put there.

* `Lexer.fetch` reads one token and what it implies;
* `Lexer.release` hands on the tokens that nothing can be put before;
* `tokens` are the tokens of a text, handed on as soon as this can be, up to
  the first fault: who reads them meets the fault only after them.
-/

namespace TestScaffold.Yaml

/-- A token that becomes a key if a colon follows. -/
structure Candidate where
  /-- The number of tokens before it. -/
  before : Nat
  /-- Whether it can be nothing else, being where keys begin. -/
  required : Bool
  index : Nat
  line : Nat
  column : Nat

/-- How far the text has been read. -/
structure Lexer where
  cursor : Cursor
  /-- How many brackets are open. -/
  depth : Nat
  /-- The column of the innermost block, below zero outside of all. -/
  indent : Int
  /-- The columns of the blocks around it. -/
  outer : List Int
  /-- Whether a key may begin here. -/
  keyAllowed : Bool
  /-- The latest candidate at each depth of brackets. -/
  candidates : List (Nat × Candidate)
  /-- How many tokens have been handed on. -/
  released : Nat
  /-- The tokens after these. -/
  waiting : List Token
  finished : Bool

namespace Lexer

def start (s : Text) : Lexer :=
  ⟨Cursor.start s, 0, -1, [], true, [], 0, [], false⟩

def emit (t : Token) (x : Lexer) : Lexer := { x with waiting := x.waiting ++ [t] }

/-- The tokens with others put after the first `n` of all. -/
def insertAfter (n : Nat) (new : List Token) (x : Lexer) : Lexer :=
  let here := n - x.released
  { x with waiting := x.waiting.take here ++ new ++ x.waiting.drop here }

/-! ### Keys -/

/-- A key stands on one line and is not longer than 1024 characters. -/
def Candidate.isStale (k : Candidate) (c : Cursor) : Bool :=
  k.line != c.line || c.index - k.index > 1024

/-- The candidates that can still become keys. -/
def dropStale (x : Lexer) : Except Stop Lexer :=
  if x.candidates.any fun k => Candidate.isStale k.2 x.cursor && k.2.required then
    x.cursor.refuse
  else
    .ok { x with
      candidates := x.candidates.filter fun k => !Candidate.isStale k.2 x.cursor }

/-- No candidate at the present depth of brackets. -/
def dropCandidate (x : Lexer) : Except Stop Lexer :=
  match x.candidates.lookup x.depth with
  | none => .ok x
  | some k =>
    if k.required then x.cursor.refuse
    else .ok { x with candidates := x.candidates.filter (·.1 != x.depth) }

/-- The next token as a candidate, where a key may begin. -/
def noteCandidate (x : Lexer) : Except Stop Lexer :=
  if !x.keyAllowed then .ok x
  else
    match x.dropCandidate with
    | .error e => .error e
    | .ok x =>
      let c := x.cursor
      let required := x.depth = 0 ∧ x.indent = c.column
      let k : Candidate := ⟨x.released + x.waiting.length, required, c.index, c.line, c.column⟩
      .ok { x with candidates := (x.depth, k) :: x.candidates }

/-! ### Indentation -/

/-- The blocks that are indented more than `column` closed. -/
def unwindWithin (column : Int) : List Int → Lexer → Lexer
  | [], x => x
  | i :: outer, x =>
    if x.indent > column then
      unwindWithin column outer { x.emit .blockEnd with indent := i, outer := outer }
    else x

/-- The blocks that are indented more than `column` closed, outside brackets. -/
def unwind (column : Int) (x : Lexer) : Lexer :=
  if x.depth = 0 then unwindWithin column x.outer x else x

/-- A block at a column, if it is indented more than the one around it. -/
def enter (column : Int) (x : Lexer) : Option Lexer :=
  if x.indent < column then
    some { x with indent := column, outer := x.indent :: x.outer }
  else none

/-- A block begun here by a token, if it is indented more. -/
def enterWith (t : Token) (x : Lexer) : Lexer :=
  match x.enter x.cursor.column with
  | some y => y.emit t
  | none => x

/-! ### Blanks -/

/-- Past spaces, comments and line breaks. After a line break outside
brackets a key may begin. -/
def skipBlanksWithin : Nat → Lexer → Lexer
  | 0, x => x
  | fuel + 1, x =>
    let c := x.cursor.skipSpaces.skipComment
    match c.readBreak? with
    | none => { x with cursor := c }
    | some (_, c) =>
      skipBlanksWithin fuel
        { x with cursor := c, keyAllowed := x.keyAllowed || x.depth == 0 }

def skipBlanks (x : Lexer) : Lexer :=
  let c := x.cursor
  let c := if c.index = 0 ∧ c.peek 0 = some (char '\uFEFF') then c.next else c
  skipBlanksWithin (c.rest.length + 1) { x with cursor := c }

/-! ### One token -/

/-- A token of `width` characters. -/
def punctuation (t : Token) (width : Nat) (x : Lexer) : Lexer :=
  { x.emit t with cursor := x.cursor.forward width }

/-- The end of the text. -/
def endText (x : Lexer) : Except Stop Lexer := do
  let x ← (x.unwind (-1)).dropCandidate
  return { x with finished := true }

/-- A line that begins or ends a document. -/
def marker (t : Token) (x : Lexer) : Except Stop Lexer := do
  let x ← (x.unwind (-1)).dropCandidate
  return { x.punctuation t 3 with keyAllowed := false }

def directive (x : Lexer) : Except Stop Lexer := do
  let x ← (x.unwind (-1)).dropCandidate
  let (d, c) ← readDirective x.cursor
  return { x.emit (.directive d) with cursor := c, keyAllowed := false }

def openBracket (t : Token) (x : Lexer) : Except Stop Lexer := do
  let x ← x.noteCandidate
  return { x.punctuation t 1 with depth := x.depth + 1, keyAllowed := true }

def closeBracket (t : Token) (x : Lexer) : Except Stop Lexer := do
  let x ← x.dropCandidate
  if x.depth = 0 then x.cursor.refuse
  else return { x.punctuation t 1 with depth := x.depth - 1, keyAllowed := false }

def comma (x : Lexer) : Except Stop Lexer := do
  let x ← x.dropCandidate
  return { x.punctuation .comma 1 with keyAllowed := true }

/-- The dash before an element of a sequence. -/
def dash (x : Lexer) : Except Stop Lexer := do
  if x.depth = 0 ∧ !x.keyAllowed then x.cursor.refuse
  else
    let x := if x.depth = 0 then x.enterWith .blockSequence else x
    let x ← x.dropCandidate
    return { x.punctuation .dash 1 with keyAllowed := true }

/-- The question mark before a key. -/
def questionMark (x : Lexer) : Except Stop Lexer := do
  if x.depth = 0 ∧ !x.keyAllowed then x.cursor.refuse
  else
    let x := if x.depth = 0 then x.enterWith .blockMapping else x
    let x ← x.dropCandidate
    return { x.punctuation .key 1 with keyAllowed := x.depth = 0 }

/-- The colon after a key, which makes the candidate a key. -/
def colon (x : Lexer) : Except Stop Lexer := do
  match x.candidates.lookup x.depth with
  | some k =>
    let x := { x with
      candidates := x.candidates.filter (·.1 != x.depth)
      keyAllowed := false }
    let entered := if x.depth = 0 then x.enter k.column else none
    let new : List Token := if entered.isSome then [.blockMapping, .key] else [.key]
    return ((entered.getD x).insertAfter k.before new).punctuation .value 1
  | none =>
    if x.depth = 0 ∧ !x.keyAllowed then x.cursor.refuse
    else
      let x := if x.depth = 0 then x.enterWith .blockMapping else x
      let x ← x.dropCandidate
      return { x.punctuation .value 1 with keyAllowed := x.depth = 0 }

/-- A name or a text that may be a key. -/
def keyable {α : Type} (read : Cursor → Except Stop (α × Cursor))
    (token : α → Token) (x : Lexer) : Except Stop Lexer := do
  let x ← x.noteCandidate
  let (a, c) ← read x.cursor
  return { x.emit (token a) with cursor := c, keyAllowed := false }

def plain (x : Lexer) : Except Stop Lexer := do
  let x ← x.noteCandidate
  let (s, broken, c) := readPlain (x.depth != 0) (x.indent + 1).toNat x.cursor
  return { x.emit (.scalar true s) with cursor := c, keyAllowed := broken }

def block (folded : Bool) (x : Lexer) : Except Stop Lexer := do
  let x ← x.dropCandidate
  let (s, c) ← readBlock folded x.indent x.cursor
  return { x.emit (.scalar false s) with
    cursor := c
    keyAllowed := true }

/-- Whether a plain scalar may begin here. -/
def startsPlain (inBrackets : Bool) (c : Cursor) : Bool :=
  match c.peek 0 with
  | none => false
  | some ch =>
    !(endsWord (some ch) || "-?:,[]\x7b\x7d#&*!|>'\"%@`".toText.elem ch) ||
      (!endsWord (c.peek 1) &&
        (ch == char '-' || (!inBrackets && (ch == char '?' || ch == char ':'))))

/-- The next token, with what it implies about the blocks around it. -/
def fetch (x : Lexer) : Except Stop Lexer := do
  let x ← x.skipBlanks.dropStale
  let x := x.unwind x.cursor.column
  let c := x.cursor
  let inBrackets := x.depth != 0
  match c.peek 0 with
  | none => x.endText
  | some ch =>
    if ch = char '%' ∧ c.column = 0 then x.directive
    else if c.column = 0 ∧ c.atMarker (char '-') then x.marker .documentStart
    else if c.column = 0 ∧ c.atMarker (char '.') then x.marker .documentEnd
    else if ch = char '[' then x.openBracket .openSequence
    else if ch = char '\x7b' then x.openBracket .openMapping
    else if ch = char ']' then x.closeBracket .closeSequence
    else if ch = char '\x7d' then x.closeBracket .closeMapping
    else if ch = char ',' then x.comma
    else if ch = char '-' ∧ endsWord (c.peek 1) then x.dash
    else if ch = char '?' ∧ (inBrackets || endsWord (c.peek 1)) then x.questionMark
    else if ch = char ':' ∧ (inBrackets || endsWord (c.peek 1)) then x.colon
    else if ch = char '*' then x.keyable readAnchor .alias
    else if ch = char '&' then x.keyable readAnchor .anchor
    else if ch = char '!' then x.keyable readTag .tag
    else if ch = char '|' ∧ !inBrackets then x.block false
    else if ch = char '>' ∧ !inBrackets then x.block true
    else if ch = char '\x27' then x.keyable (readQuoted false) (.scalar false)
    else if ch = char '\x22' then x.keyable (readQuoted true) (.scalar false)
    else if startsPlain inBrackets c then x.plain
    else x.cursor.refuse

/-! ### All tokens -/

/-- Whether something may be put before the first token that is waiting. -/
def isUndecided (x : Lexer) : Bool := x.candidates.any (·.2.before == x.released)

/-- The waiting tokens that can be handed on, at most `fuel` of them, and the
lexer without these. -/
def release : Nat → Lexer → List Token × Lexer
  | 0, x => ([], x)
  | fuel + 1, x =>
    match x.waiting with
    | [] => ([], x)
    | t :: ts =>
      if x.isUndecided then ([], x)
      else
        let (more, x) := release fuel
          { x with released := x.released + 1, waiting := ts }
        (t :: more, x)

/-- The tokens handed on after one more was fetched, if the text goes well. -/
def step (x : Lexer) : Except Stop (List Token × Lexer) := do
  let x ← x.fetch
  if x.finished then return (x.waiting, x)
  else
    let x ← x.dropStale
    return x.release x.waiting.length

/-- All tokens from here on, and the fault after them. At most `fuel` are
fetched. Where the text could not be read to its end, nothing that reaches
this end counts. -/
def run (broken : Option Fault) : Nat → Lexer → List Token × Option Fault
  | 0, _ => ([], some .malformed)
  | fuel + 1, x =>
    let reachesEnd (index : Nat) : Bool :=
      x.cursor.index + x.cursor.rest.length ≤ index + 1
    match x.step with
    | .error s =>
      ([], some (if reachesEnd s.index then broken.getD s.fault else s.fault))
    | .ok (ts, y) =>
      if reachesEnd y.cursor.index ∧ broken.isSome then ([], broken)
      else if y.finished then (ts, none)
      else
        let (more, f) := run broken fuel y
        (ts ++ more, f)

end Lexer

/-- The tokens of a text, and the fault after them if it has one. Each fetch
reads a character at least, and the last one the end. -/
def tokens (s : Source) : List Token × Option Fault :=
  (Lexer.start s.text).run s.broken (s.text.length + 2)

end TestScaffold.Yaml
