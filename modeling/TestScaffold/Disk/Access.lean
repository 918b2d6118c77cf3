import TestScaffold.Disk.Walk
import TestScaffold.Path

/-!
Reading, writing and making directories, as functions on the disk.

* `readFile` leaves the disk alone; `openFile` makes one file, or empties the
  one that is there, and says where it stands, so that `fill` can write there
  whatever happens to the path; `openLog` and `append` do the same at the end of
  a file. Writing may be refused after a file was opened.
* `makeDir` makes one directory. `makeDirs` and `makePath` make all that a
  path asks for; they differ in how they look for the first missing one, and
  so in the path that an error names.
-/

namespace TestScaffold.Disk

/-- The content of a file. -/
def readFile (d : Disk) (here : Location) (path : Text) :
    Except AccessError (List UInt8) :=
  if ¬Text.isPath path then .error (.notPath path)
  else
    match d.stat here path with
    | .error e => .error (.at path e)
    | .ok (.file bs) => .ok bs
    | .ok .dir => .error (.at path .isDirectory)
    | .ok .faulty => .error (.system ⟨.inputOutput, none⟩)
    | .ok (.link _) => .error (.at path .tooManyLinks)

/-- Where a file stands that is opened to be written, and what it holds, if
it is there. -/
def target (d : Disk) (here : Location) (path : Text) :
    Except Errno (Location × Option Node) :=
  match d.resolve here path .file with
  | .error e => .error e
  | .ok (.vacant l c) => .ok (c :: l, none)
  | .ok (.found l n) => if n = .dir then .error .isDirectory else .ok (l, some n)

/-- The location of a file that is opened for writing over it; it is made, or
emptied, unless it has no content. -/
def openFile (d : Disk) (here : Location) (path : Text) :
    Except AccessError (Disk × Location) :=
  if ¬Text.isPath path then .error (.notPath path)
  else
    match d.target here path with
    | .error e => .error (.at path e)
    | .ok (l, some .faulty) => .ok (d, l)
    | .ok (l, _) => .ok (d.put l (.file []), l)

/-- Why the system does not write what it is given, and how much of that it has
written before. -/
structure Refusal where
  errno : Errno
  written : List UInt8
  deriving DecidableEq, Repr

/-- The disk with a content for the file at a location, which is empty. Some
content is refused there. -/
def fill (d : Disk) (refusal? : Location → List UInt8 → Option Refusal)
    (l : Location) (content : List UInt8) : Except AccessError Unit × Disk :=
  if content = [] then (.ok (), d)
  else if d.get? l = some .faulty then (.error (.system ⟨.inputOutput, none⟩), d)
  else
    match refusal? l content with
    | some r =>
      (.error (.system ⟨r.errno, none⟩), d.put l (.file r.written))
    | none => (.ok (), d.put l (.file content))

/-- The location of a file that is opened for appending; it is made, empty,
if it is missing. -/
def openLog (d : Disk) (here : Location) (path : Text) :
    Except AccessError (Disk × Location) :=
  if ¬Text.isPath path then .error (.notPath path)
  else
    match d.target here path with
    | .error e => .error (.at path e)
    | .ok (_, some .faulty) => .error (.system ⟨.invalid, none⟩)
    | .ok (l, some _) => .ok (d, l)
    | .ok (l, none) => .ok (d.put l (.file []), l)

/-- The file at a location with octets added at its end. -/
def append (d : Disk) (l : Location) (more : List UInt8) : Disk :=
  match d.get? l with
  | some (.file bs) => d.put l (.file (bs ++ more))
  | _ => d

/-! ### Directories -/

/-- The disk with one new directory. Whatever already has the name, be it a
link that leads nowhere, is in the way. -/
def makeDir (d : Disk) (here : Location) (path : Text) :
    Except AccessError Disk :=
  if ¬Text.isPath path then .error (.notPath path)
  else
    match d.resolve here path .entry with
    | .error e => .error (.at path e)
    | .ok (.found _ _) => .error (.at path .exists)
    | .ok (.vacant l c) => .ok (d.put (c :: l) .dir)

/-- One new directory, or the one that is there. -/
def ensureDir (d : Disk) (here : Location) (path : Text) :
    Except AccessError Disk :=
  match d.makeDir here path with
  | .ok d' => .ok d'
  | .error (.notPath p) => .error (.notPath p)
  | .error e => if d.isDir here path then .ok d else .error e

/-- The directories of a path, looked for from the inside: as long as what is
before the last part does not exist, that is made first, down to the given
depth. The disk is the one that the directories made before an error have
left. -/
def makeDirs (d : Disk) (here : Location) :
    Nat → Text → Except AccessError Unit × Disk
  | 0, _ => (.error .tooDeep, d)
  | depth + 1, path =>
    let cut := Path.splitLast path
    let cut := if cut.2 = [] then Path.splitLast cut.1 else cut
    let finish (d : Disk) : Except AccessError Unit × Disk :=
      match d.ensureDir here path with
      | .ok d' => (.ok (), d')
      | .error e => (.error e, d)
    if cut.1 ≠ [] ∧ cut.2 ≠ [] ∧ !d.exists? here cut.1 then
      match makeDirs d here depth cut.1 with
      | (.error e, d') =>
        match e with
        | .system ⟨.exists, _⟩ => if cut.2 = [char '.'] then (.ok (), d') else finish d'
        | _ => (.error e, d')
      | (.ok (), d') => if cut.2 = [char '.'] then (.ok (), d') else finish d'
    else finish d

/-- Whether a path leads to a directory, where an access that fails for
another reason than a missing or a wrong part is an error. -/
def isDirStrict (d : Disk) (here : Location) (path : Text) :
    Except AccessError Bool :=
  if ¬Text.isPath path then .ok false
  else
    match d.stat here path with
    | .ok n => .ok (n = .dir)
    | .error .noEntry | .error .notDirectory | .error .tooManyLinks => .ok false
    | .error e => .error (.at path e)

/-- One new directory, or the one that is there, where a path that cannot
even be looked at is an error of its own. -/
def ensureDirStrict (d : Disk) (here : Location) (path : Text) :
    Except AccessError Disk :=
  match d.makeDir here path with
  | .ok d' => .ok d'
  | .error (.notPath p) => .error (.notPath p)
  | .error e =>
    match d.isDirStrict here path with
    | .ok true => .ok d
    | .ok false => .error e
    | .error e' => .error e'

/-- The directories of a path, given by its slashes and its parts, innermost
first: the last one is tried, and only if its parent is missing that one is
made first, down to the given depth. -/
def makeParts (d : Disk) (here : Location) (slashes : Nat) :
    Nat → List Text → Except AccessError Unit × Disk
  | 0, _ => (.error .tooDeep, d)
  | _ + 1, [] =>
    match d.ensureDirStrict here (Path.toText ⟨slashes, []⟩) with
    | .ok d' => (.ok (), d')
    | .error e => (.error e, d)
  | depth + 1, c :: up =>
    let path := Path.toText ⟨slashes, (c :: up).reverse⟩
    match d.makeDir here path with
    | .error (.system ⟨.noEntry, _⟩) =>
      match makeParts d here slashes depth up with
      | (.error e, d') => (.error e, d')
      | (.ok (), d') =>
        match d'.ensureDirStrict here path with
        | .ok d'' => (.ok (), d'')
        | .error e => (.error e, d')
    | _ =>
      match d.ensureDirStrict here path with
      | .ok d' => (.ok (), d')
      | .error e => (.error e, d)

/-- The directories of a path that has been taken apart. -/
def makePath (d : Disk) (here : Location) (room : Nat) (p : Path) :
    Except AccessError Unit × Disk :=
  d.makeParts here p.slashes room p.parts.reverse

end TestScaffold.Disk
