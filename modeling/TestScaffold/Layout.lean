import TestScaffold.Error
import TestScaffold.Path

/-!
The layout of a module: what the path of a source file says about its module,
its package and the place of its test.

All of these are cuts of the path as it is spelled; the disk is not looked at.

* `moduleRoot` is what stands before the first `/src`;
* `sourceRoot` is the first of the configured source roots that occurs, and
  `packageName` are the directories after its first occurrence;
* `testPlace` is the directory of the test, which is what stands before the
  first occurrence of the file name, with the first `main` turned into
  `test`, and the name of the test file.
-/

namespace TestScaffold.Layout

/-- The directory of the module. -/
def moduleRoot (path : Text) : Except ScaffoldError Text :=
  let root := Text.before "/src".toText path
  if root = [] then .error .noModuleRoot else .ok root

/-- The configured source root of a path. -/
def sourceRoot (roots : List Text) (path : Text) : Except ScaffoldError Text :=
  match roots.find? fun r => Text.contains r path with
  | some r => .ok r
  | none => .error (.noSourceRoot roots)

/-- The package that the directories of a path name: joined by dots, without
the dot of a slash at the beginning. The last part is the file. -/
def packageOf (path : Text) : Text :=
  let dotted := (Text.cutLast (char '/') path).1.map fun c => if c = char '/' then char '.' else c
  match dotted with
  | char '.' :: s => s
  | s => s

/-- The package of a source file. -/
def packageName (roots : List Text) (path : Text) : Except Failure Text :=
  match sourceRoot roots path with
  | .error e => .error (.scaffold e)
  | .ok root =>
    if root = [] then .error .emptySeparator
    else
      match Text.cut? root path with
      | some (_, rest) => .ok (packageOf rest)
      | none => .ok (packageOf path)

/-- The name of the test file of a source file. -/
def testFileName (path : Text) : Text :=
  let p := Path.ofText path
  p.stem ++ "Test".toText ++ p.suffix

/-- The directory and the name of the test file of a source file. -/
def testPlace (path : Text) : Except Failure (Text × Text) :=
  let name := (Path.ofText path).name
  if name = [] then .error .emptySeparator
  else
    let dir := Text.replaceFirst "main".toText "test".toText
      (Text.before name path)
    if dir = [] then .error (.scaffold .noTestDirectory)
    else .ok (dir, testFileName path)

end TestScaffold.Layout
