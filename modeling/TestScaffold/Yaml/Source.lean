import TestScaffold.Text.LineBreak
import TestScaffold.Yaml.Fault

/-!
A YAML file as it is read, which is page by page.

Octets are fetched in chunks and decoded; line breaks become line feeds, and
the characters are handed on in pages. Where octets are no text, or where a
page has a character that no YAML text may hold, there is a fault; what was
handed on before stands, so a fault of its own counts first.

* `Reader.page` reads one page, `Reader.pages` all of them;
* `Source.ofOctets` is the text up to the page with a fault, and that fault.
  The first two pages are read together.
-/

namespace TestScaffold.Yaml

/-- A file that is being read. -/
structure Reader where
  /-- The octets that have not been fetched. -/
  rest : List UInt8
  /-- The octets of a character that is not complete. -/
  held : List UInt8
  /-- Whether a carriage return was the last character. -/
  heldReturn : Bool
  /-- The characters that have not been handed on. -/
  ready : Text
  /-- How many octets were fetched last, and how many characters they made. -/
  octets : Nat
  characters : Nat

namespace Reader

def start (bs : List UInt8) : Reader := ⟨bs, [], false, [], 1, 1⟩

/-- The least number of octets that are fetched at once. -/
def chunkSize : Nat := 8192

/-- The number of characters of a page. -/
def pageSize : Nat := 4096

/-- Octets fetched, as many as should make the given number of characters. At
the end of the file there are none, and nothing is left unfinished. -/
def fetch (wanted : Nat) (r : Reader) : Except Utf8.Fault Reader := do
  let hint := wanted * max r.octets r.characters / r.characters
  let chunk := r.rest.take (max chunkSize hint)
  let data := r.held ++ chunk
  let (s, u?) ← Utf8.decodeFrom 0 none data
  if chunk = [] then
    match u? with
    | some u => .error u.fault
    | none =>
      return { r with
        ready := if r.heldReturn then r.ready ++ [char '\n'] else r.ready
        heldReturn := false }
  else
    let s := if r.heldReturn ∧ s ≠ [] then char '\r' :: s else s
    let heldReturn := if s = [] then r.heldReturn else s.getLast? = some (char '\r')
    let s := Text.unifyBreaks (if heldReturn then s.dropLast else s)
    return {
      rest := r.rest.drop chunk.length
      held := data.drop (data.length - ((u?.map (·.taken)).getD 0))
      heldReturn
      ready := r.ready ++ s
      octets := if s = [] then 1 else chunk.length
      characters := max s.length 1 }

/-- Chunks fetched until a page is full, at most `fuel` of them. -/
def fill : Nat → Reader → Except Utf8.Fault Reader
  | 0, r => .ok r
  | fuel + 1, r =>
    if pageSize ≤ r.ready.length then .ok r
    else do
      let r' ← r.fetch (pageSize - r.ready.length)
      if r.rest = [] ∧ !r.heldReturn then return r' else fill fuel r'

/-- The next page, which is empty at the end. -/
def page (r : Reader) : Except Utf8.Fault (Text × Reader) := do
  let r ← r.fill (r.rest.length + 3)
  return (r.ready.take pageSize, { r with ready := r.ready.drop pageSize })

/-- All pages, at most `fuel` of them, and the fault of the page after them. -/
def pages : Nat → Reader → List Text × Option Utf8.Fault
  | 0, _ => ([], none)
  | fuel + 1, r =>
    match r.page with
    | .error f => ([], some f)
    | .ok (p, r) =>
      if p = [] then ([], none)
      else
        let (ps, f) := pages fuel r
        (p :: ps, f)

end Reader

/-- The characters that a YAML text may hold. -/
def isAllowed (c : CodePoint) : Bool :=
  let n := c.toNat
  n == 0x9 || n == 0xA || n == 0xD || (0x20 ≤ n && n ≤ 0x7E) || n == 0x85 ||
    (0xA0 ≤ n && n ≤ 0xD7FF) || (0xE000 ≤ n && n ≤ 0xFFFD) || 0x10000 ≤ n

/-- The part of a text that can be read, and what is wrong after it, if that
is not all. -/
structure Source where
  text : Text
  broken : Option Fault
  deriving DecidableEq, Repr

namespace Source

/-- The pages before the first one with a character that is not allowed. -/
def allowed (ending : Option Fault) : List Text → Source
  | [] => ⟨[], ending⟩
  | p :: ps =>
    if p.all isAllowed then
      let s := allowed ending ps
      { s with text := p ++ s.text }
    else ⟨[], some .malformed⟩

/-- The text of a file. -/
def ofOctets (bs : List UInt8) : Source :=
  let (ps, f) := (Reader.start bs).pages (bs.length + 1)
  let ending := f.map Fault.undecodable
  match ps, f with
  | [], _ | [_], some _ => ⟨[], ending⟩
  | [p], none => allowed none [p]
  | p :: q :: ps, _ => allowed ending ((p ++ q) :: ps)

end Source

end TestScaffold.Yaml
