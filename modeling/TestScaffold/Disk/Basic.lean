import TestScaffold.Text.Encoding
import TestScaffold.Text.Quoted

/-!
The disk: which directories, files and links there are, and the errors that an
access may end with.

* A `Location` is a place in the tree, whatever path led there. Its view
  `Disk.get?` says what stands at a location; the root is always a directory.
* `Disk.put` changes one location and no other (`get?_put_self`,
  `get?_put_of_ne`). Nothing is ever removed.
-/

namespace TestScaffold

/-- A place in the tree of directories: the names that lead to it, innermost
first. The root is the empty list. -/
abbrev Location := List Text

/-- What stands at a location. -/
inductive Node
  | dir
  | file (content : List UInt8)
  | link (target : Text)
  /-- A file that can be opened and neither read nor written. -/
  | faulty
  deriving DecidableEq, Repr

/-- The entries of the tree, the root apart. -/
structure Disk where
  nodes : List (Location × Node)

namespace Disk

/-- What stands at a location, if anything does. -/
def get? (d : Disk) : Location → Option Node
  | [] => some .dir
  | l => (d.nodes.find? (·.1 = l)).map (·.2)

/-- The disk with one location made or changed. -/
def put (d : Disk) (l : Location) (n : Node) : Disk :=
  ⟨(l, n) :: d.nodes.filter (·.1 ≠ l)⟩

/-- What was put somewhere is there. The root is a directory in any case. -/
theorem get?_put_self (d : Disk) {l : Location} (hl : l ≠ []) (n : Node) :
    (d.put l n).get? l = some n := by
  cases l with
  | nil => contradiction
  | cons c l => simp [get?, put]

/-- Elsewhere nothing is changed. -/
theorem get?_put_of_ne (d : Disk) {l m : Location} (h : m ≠ l) (n : Node) :
    (d.put l n).get? m = d.get? m := by
  cases m with
  | nil => rfl
  | cons c m =>
    have hd : (l = c :: m) = False := by simpa using Ne.symm h
    simp only [get?, put, List.find?_cons, hd, decide_false, List.find?_filter]
    congr 2
    funext p
    by_cases hp : p.1 = c :: m <;> simp [hp, h]

/-- The path of a location from the root. -/
def pathTo (l : Location) : Text := char '/' :: Text.join [char '/'] l.reverse

end Disk

/-! ### Errors of an access -/

/-- Why the system refuses an access. -/
inductive Errno
  | noEntry
  | inputOutput
  | accessDenied
  | exists
  | notDirectory
  | isDirectory
  | invalid
  | noSpace
  | nameTooLong
  | tooManyLinks
  deriving DecidableEq, Repr

namespace Errno

def number : Errno → Nat
  | .noEntry => 2
  | .inputOutput => 5
  | .accessDenied => 13
  | .exists => 17
  | .notDirectory => 20
  | .isDirectory => 21
  | .invalid => 22
  | .noSpace => 28
  | .nameTooLong => 36
  | .tooManyLinks => 40

def description : Errno → Text
  | .noEntry => "No such file or directory".toText
  | .inputOutput => "Input/output error".toText
  | .accessDenied => "Permission denied".toText
  | .exists => "File exists".toText
  | .notDirectory => "Not a directory".toText
  | .isDirectory => "Is a directory".toText
  | .invalid => "Invalid argument".toText
  | .noSpace => "No space left on device".toText
  | .nameTooLong => "File name too long".toText
  | .tooManyLinks => "Too many levels of symbolic links".toText

/-- The kind under which the error is reported. -/
def kind : Errno → Text
  | .noEntry => "FileNotFoundError".toText
  | .accessDenied => "PermissionError".toText
  | .exists => "FileExistsError".toText
  | .notDirectory => "NotADirectoryError".toText
  | .isDirectory => "IsADirectoryError".toText
  | _ => "OSError".toText

end Errno

/-- A refused access, with the path as it was given where one was given. -/
structure SystemError where
  errno : Errno
  path : Option Text
  deriving DecidableEq, Repr

def SystemError.message (e : SystemError) : Text :=
  "[Errno ".toText ++ Text.ofNat e.errno.number ++ "] ".toText ++
    e.errno.description ++
    match e.path with
    | some p => ": ".toText ++ Text.quote p
    | none => []

/-- Why an access fails: a text that is no path is refused before the system
sees it, as is a path that asks for too many directories at once. -/
inductive AccessError
  | notPath (path : Text)
  | tooDeep
  | system (e : SystemError)
  deriving DecidableEq, Repr

/-- A refused access to a path. -/
def AccessError.at (path : Text) (e : Errno) : AccessError :=
  .system ⟨e, some path⟩

end TestScaffold
