import TestScaffold.Text.Basic

/-!
The tree of loggers: which logger stands above which.

A logger is made when it is first named, and then stands below the nearest
logger above it, by its dotted name, that has been made already, or else below
the root. A name above it that no logger has yet waits for one, and remembers
the loggers that were made below it: when its own logger is made, it takes
them over from the logger above them.

* `namesAbove` lists the names above a name, nearest first;
* `Lineage.meet` makes the logger of a name, if there is none;
* `Lineage.line` is the line from a logger up to the root.

A logger is not taken over if the name of the logger above it begins with the
new name: that one is taken to be nearer. This is also how the root, which has
a name like any other, keeps loggers from one called by the first letters of
that name.
-/

namespace TestScaffold

/-- The name of the root of the tree. -/
def rootLogger : Text := "root".toText

/-- The logger that a name means. -/
def loggerName (name : Text) : Text := if name = [] then rootLogger else name

/-- The parts before the dots of a name given in reverse, nearest first. Of
two dots in a row the first is not looked at. -/
def partsBeforeDots : Text → List Text
  | char '.' :: c :: s => (c :: s).reverse :: partsBeforeDots s
  | _ :: s => partsBeforeDots s
  | [] => []

/-- The names above a name. -/
def namesAbove (name : Text) : List Text := partsBeforeDots name.reverse

/-- What is known of a name. -/
inductive Kin
  /-- It has a logger, which stands below another one. -/
  | made (above : Text)
  /-- It has none, but these loggers were made below it. -/
  | awaited (below : List Text)
  deriving DecidableEq, Repr

/-- The names that are known, the root apart. -/
structure Lineage where
  kin : List (Text × Kin)
  deriving DecidableEq, Repr

namespace Lineage

/-- Only the root is known. -/
def start : Lineage := ⟨[]⟩

def put (x : Lineage) (name : Text) (k : Kin) : Lineage :=
  ⟨(name, k) :: x.kin.filter (·.1 ≠ name)⟩

/-- The logger above a logger, which is the root for one that is not known. -/
def above (x : Lineage) (name : Text) : Text :=
  match x.kin.lookup name with
  | some (.made p) => p
  | _ => rootLogger

/-- The first of the given names that has a logger, or the root. The names
before it wait from now on, and know the new logger. -/
def seek (new : Text) : List Text → Lineage → Text × Lineage
  | [], x => (rootLogger, x)
  | n :: ns, x =>
    match x.kin.lookup n with
    | some (.made _) => (n, x)
    | some (.awaited below) =>
      seek new ns (x.put n (.awaited (below ++ [new])))
    | none => seek new ns (x.put n (.awaited [new]))

/-- The logger `c` taken over by a new one, unless it stands nearer to
another. -/
def takeOver (new : Text) (x : Lineage) (c : Text) : Lineage :=
  if Text.startsWith new (x.above c) then x else x.put c (.made new)

/-- The lineage with a logger of the given name. -/
def meet (x : Lineage) (name : Text) : Lineage :=
  if name = rootLogger then x
  else
    let join (below : List Text) : Lineage :=
      let (p, y) := seek name (namesAbove name) (below.foldl (takeOver name) x)
      y.put name (.made p)
    match x.kin.lookup name with
    | some (.made _) => x
    | some (.awaited below) => join below
    | none => join []

/-- A logger and the loggers above it, at most `fuel` of them before the
root. -/
def lineWithin (x : Lineage) : Nat → Text → List Text
  | 0, _ => [rootLogger]
  | fuel + 1, name =>
    if name = rootLogger then [rootLogger]
    else name :: lineWithin x fuel (x.above name)

/-- A logger and all loggers above it, nearest first. A name above is shorter,
the root's apart. -/
def line (x : Lineage) (name : Text) : List Text :=
  x.lineWithin (name.length + 1) name

end Lineage

end TestScaffold
