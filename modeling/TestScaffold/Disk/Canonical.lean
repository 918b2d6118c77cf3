import TestScaffold.Disk.Access

/-!
The path without links that a path stands for, also when nothing is there yet.

The parts of a path are taken one by one, and a part that is a link is
replaced by what its target stands for; a part that does not exist is kept as
it is. Two dots drop the part before. A link that is met again while its own
target is still being taken apart leads nowhere: what has been found is then
put before the rests of all texts that are still open, each as it is spelled,
so that a rest that begins with a slash hides what is before it.

* `Disk.settle` goes through the parts; `Disk.canonical` makes the result a
  path from the root, and refuses one that runs in a circle.
-/

namespace TestScaffold

/-- Why a path cannot be freed of its links. -/
inductive ResolveError
  | notPath (path : Text)
  | loop (path : Text)
  deriving DecidableEq, Repr

namespace Path

/-- A path without links and its last part; above its beginning a path goes on
in pairs of dots. -/
def parentOf (path : Text) : Text :=
  if path = [] then [char '.', char '.']
  else
    let (head, name) := splitLast path
    if name = [char '.', char '.'] then joinTo (joinTo head name) name else head

end Path

namespace Disk

/-- A text that is taken apart later, and the link that what is found before it
stands for. -/
structure Pending where
  link : Text
  rest : Text
  deriving DecidableEq, Repr

/-- The characters of the open texts, and one for each of them. -/
@[simp]
def pendingLength : List Pending → Nat
  | [] => 0
  | f :: around => f.rest.length + 1 + pendingLength around

/-- A path before the rests of all open texts, as they are. -/
def keepRests (path : Text) (around : List Pending) : Text :=
  around.foldl (fun p f => Path.joinTo p f.rest) path

/-- The target of the link at a path, if there is one. -/
def linkAt? (d : Disk) (here : Location) (path : Text) : Option Text :=
  match d.resolve here path .entry with
  | .ok (.found _ (.link target)) => some target
  | _ => none

/-- The path that a text and the open texts around it stand for, after what
has been found. For a link that has been met before, `seen` holds what it
stands for, or nothing while that is being found. At most `budget` links are
replaced. -/
def settle (d : Disk) (here : Location) (budget : Nat)
    (seen : List (Text × Option Text)) (done : Text) :
    Text → List Pending → Except ResolveError Text
  | [], [] => .ok done
  | [], f :: around =>
    settle d here budget ((f.link, some done) :: seen) done f.rest around
  | c :: s, around =>
    if c = char '/' then settle d here budget seen done s around
    else
      let name := c :: s.takeWhile (· != char '/')
      let rest := (s.dropWhile (· != char '/')).drop 1
      have _shorter := (List.dropWhile_suffix (· != char '/') (l := s)).length_le
      if name = [char '.'] then settle d here budget seen done rest around
      else if name = [char '.', char '.'] then
        settle d here budget seen (Path.parentOf done) rest around
      else if ¬Text.isPath name then .error (.notPath (Path.joinTo done name))
      else
        let path := Path.joinTo done name
        match d.linkAt? here path with
        | none => settle d here budget seen path rest around
        | some target =>
          match seen.lookup path with
          | some (some known) => settle d here budget seen known rest around
          | some none => .ok (keepRests (Path.joinTo path rest) around)
          | none =>
            if _h : budget = 0 then
              .ok (keepRests (Path.joinTo path rest) around)
            else
              settle d here (budget - 1) ((path, none) :: seen)
                (if target.head? = some (char '/') then [char '/'] else done) target
                (⟨path, rest⟩ :: around)
termination_by s around =>
  (budget, s.length + pendingLength around)
decreasing_by
  all_goals simp_wf
  all_goals omega

/-- More links than a path can lead through: each entry of the disk, reached
from the root or from one of the directories that a text can lead up to. -/
def linkBudget (d : Disk) (here : Location) (path : Text) : Nat :=
  let spelled := d.nodes.foldl (fun n p =>
    match p.2 with
    | .link target => n + target.length
    | _ => n) 0
  d.nodes.length * (here.length + path.length + spelled + 2) + 1

/-- The path from the root, without links, that a path stands for. -/
def canonical (d : Disk) (here : Location) (path : Text) :
    Except ResolveError Path :=
  let start : Text := if path.head? = some (char '/') then [char '/'] else []
  match d.settle here (d.linkBudget here path) [] start path [] with
  | .error e => .error e
  | .ok found =>
    let p := Path.ofText (Path.absolute (pathTo here) found)
    if ¬Text.isPath p.toText then .error (.notPath p.toText)
    else
      match d.stat here p.toText with
      | .error .tooManyLinks => .error (.loop p.toText)
      | _ => .ok p

end Disk

end TestScaffold
