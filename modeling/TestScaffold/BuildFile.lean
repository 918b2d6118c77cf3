import TestScaffold.Audit
import TestScaffold.Layout
import TestScaffold.Settings

/-!
The build file of a module, and whether it asks for test dependencies.

* `BuildFile.find` looks into the module root of a source file and nowhere
  else; of two build files the first of `names` wins;
* `BuildFile.hasTestDependencies` looks for the marker in the text of a build
  file. What is no valid text in it is read as a replacement character.
-/

namespace TestScaffold

/-- The text of a file as it is read: never refused for its octets, and with
line feeds only. -/
def sourceText (octets : List UInt8) : Text :=
  Text.unifyBreaks (Utf8.decodeLossy octets)

namespace BuildFile

open TestScaffold.Action

/-- The logger for modules. -/
def logger : Text := Audit.subLogger "gradle_module".toText

/-- What build files are called, the preferred name first. -/
def names : List Text := ["build.gradle".toText, "build.gradle.kts".toText]

/-- Whether a directory has an entry of a name, whatever that is. -/
def hasEntry (d : Disk) (here : Location) (dir name : Text) : Bool :=
  match d.resolve here dir .content with
  | .ok (.found l _) => (d.get? (name :: l)).isSome
  | _ => false

/-- Why the system does not list a directory, if it does not. -/
def unlistable? (host : Host) (d : Disk) (here : Location) (dir : Text) : Option Errno :=
  match d.resolve here dir .content with
  | .ok (.found l _) => host.unlistable? l
  | _ => none

/-- The build file of the module of a source file. -/
def find (path : Text) : Action Text := do
  let root ← ofExcept ((Layout.moduleRoot path).mapError .scaffold)
  if ← look fun d here => d.isDir here root then
    let host ← host
    match ← look fun d here => unlistable? host d here root with
    | some e => refuse (.moduleUnlistable root ⟨e, some root⟩)
    | none =>
      match ← look fun d here => names.find? (hasEntry d here root) with
      | some name =>
        let file := root ++ char '/' :: name
        log logger Level.info ("Build file: ".toText ++ file)
        return file
      | none =>
        log logger Level.debug
          ("None of ('build.gradle', 'build.gradle.kts') found in ".toText ++ root)
        refuse .noBuildFile
  else
    log logger Level.debug
      ("Module root ".toText ++ root ++ " is not a directory".toText)
    refuse .noBuildFile

/-- Whether a build file has the marker of a test dependency. -/
def hasTestDependencies (file marker : Text) : Action Bool := do
  if ← look fun d here => d.isFile here file then
    let octets ← accessOr (.buildFileUnreadable file)
      (← look fun d here => d.readFile here file)
    return Text.contains marker (sourceText octets)
  else return false

end BuildFile

end TestScaffold
