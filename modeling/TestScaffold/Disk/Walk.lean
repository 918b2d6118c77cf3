import TestScaffold.Disk.Basic

/-!
Where a path leads on a disk.

A walk takes the parts of the path one by one. Each part must be looked up in
a directory; a dot stays, two dots go to the parent, and a link is replaced by
the parts of its target. `stride` walks up to the first link that has to be
followed, by recursion on the parts, and `walk` follows links as long as its
budget lasts.

* `Disk.resolve` starts at the root or at the working directory and reports
  what the walk came to: a `Spot`. What it does at the end of the path depends
  on its `Aim`, and on whether the path, or the target of a link that it ends
  with, has a slash at its end and so can only mean a directory.
* Without links a path leads where its parts say: `stride` then never
  answers with a link (`stride_ne_link`).
-/

namespace TestScaffold

/-- What a walk is for, which decides about the end of a path. -/
inductive Aim
  /-- The entry itself, be it a link. -/
  | entry
  /-- What is there, all links followed. -/
  | content
  /-- A file, all links followed, that may not be there yet. -/
  | file
  deriving DecidableEq, Repr

/-- What a walk came to: a node, or a free name in a directory. -/
inductive Spot
  | found (l : Location) (n : Node)
  | vacant (dir : Location) (name : Text)
  deriving DecidableEq, Repr

/-- What a walk came to without following a link. -/
inductive Stride
  | arrived (s : Spot)
  | link (place : Location) (target : Text) (rest : List Text)
  | blocked (e : Errno)
  deriving DecidableEq, Repr

namespace Disk

/-- The greatest length of a name, in octets. -/
def nameMax : Nat := 255

/-- A path of this length, in octets, or more is refused. -/
def pathMax : Nat := 4096

/-- How many links one walk follows. -/
def linkMax : Nat := 40

/-- The names between the slashes of a path, dots included. -/
def steps (path : Text) : List Text := (Text.fields (char '/') path).filter (· != [])

/-- Whether a path ends in a slash. -/
def endsInSlash (path : Text) : Bool := path.getLast? = some (char '/')

/-- The walk from a location, up to the first link that has to be followed.
A file cannot be meant by a path with a slash at its end. -/
def stride (d : Disk) (aim : Aim) (slash : Bool) : Location → List Text → Stride
  | l, [] =>
    match d.get? l with
    | some n => .arrived (.found l n)
    | none => .blocked .noEntry
  | l, c :: rest =>
    if d.get? l ≠ some .dir then .blocked .notDirectory
    else if c = [char '.'] then stride d aim slash l rest
    else if c = [char '.', char '.'] then stride d aim slash l.tail rest
    else if rest = [] ∧ aim = .file ∧ slash then .blocked .isDirectory
    else if (Utf8.encode c).length > nameMax then .blocked .nameTooLong
    else
      match d.get? (c :: l) with
      | none => if rest = [] then .arrived (.vacant l c) else .blocked .noEntry
      | some (.link target) =>
        if rest = [] ∧ aim = .entry then .arrived (.found (c :: l) (.link target))
        else .link l target rest
      | some _ => stride d aim slash (c :: l) rest

/-- On a disk without links no stride stops at one, so a walk is a single stride. -/
theorem stride_ne_link {d : Disk} (h : ∀ l t, d.get? l ≠ some (.link t))
    (aim : Aim) (slash : Bool) (l : Location) (todo : List Text)
    (l' : Location) (t : Text) (rest : List Text) :
    d.stride aim slash l todo ≠ .link l' t rest := by
  fun_induction stride d aim slash l todo <;> simp_all

/-- The directory where a path begins. -/
def origin (here : Location) (path : Text) : Location :=
  if path.head? = some (char '/') then [] else here

/-- The walk that follows at most `budget` links. -/
def walk (d : Disk) (aim : Aim) :
    Nat → Bool → Location → List Text → Except Errno Spot
  | budget, slash, l, todo =>
    match d.stride aim slash l todo with
    | .arrived (.found l' n) =>
      if slash ∧ aim = .content ∧ n ≠ .dir then .error .notDirectory
      else .ok (.found l' n)
    | .arrived s => .ok s
    | .blocked e => .error e
    | .link l' target rest =>
      match budget with
      | 0 => .error .tooManyLinks
      | budget + 1 =>
        walk d aim budget (slash || (rest = [] && endsInSlash target))
          (origin l' target) (steps target ++ rest)

/-- Where a path leads. -/
def resolve (d : Disk) (here : Location) (path : Text) (aim : Aim) :
    Except Errno Spot :=
  if path = [] then .error .noEntry
  else if (Utf8.encode path).length ≥ pathMax then .error .nameTooLong
  else d.walk aim linkMax (endsInSlash path) (origin here path) (steps path)

/-- The node at the end of a path, all links followed. -/
def stat (d : Disk) (here : Location) (path : Text) : Except Errno Node :=
  match d.resolve here path .content with
  | .error e => .error e
  | .ok (.vacant _ _) => .error .noEntry
  | .ok (.found _ n) => .ok n

/-- Whether a path leads to something. A text that is no path leads nowhere. -/
def exists? (d : Disk) (here : Location) (path : Text) : Bool :=
  Text.isPath path && (d.stat here path).isOk

/-- Whether a path leads to a directory. -/
def isDir (d : Disk) (here : Location) (path : Text) : Bool :=
  Text.isPath path &&
    match d.stat here path with
    | .ok .dir => true
    | _ => false

/-- Whether a path leads to a file. -/
def isFile (d : Disk) (here : Location) (path : Text) : Bool :=
  Text.isPath path &&
    match d.stat here path with
    | .ok (.file _) => true
    | .ok .faulty => true
    | _ => false

end Disk

end TestScaffold
