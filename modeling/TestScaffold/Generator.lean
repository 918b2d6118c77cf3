import TestScaffold.BuildFile
import TestScaffold.Signature.Pattern
import TestScaffold.Stub

/-!
The generator: from an annotation and a source file to a test file.

`generate` goes through all stages, and the first one that refuses ends it:
the arguments, the build file and its test dependencies, the package, the
source and its annotated functions, the place of the test. Nothing is changed
on the disk before the test file itself is written, and in a dry run it is not.
-/

namespace TestScaffold

namespace Generator

open TestScaffold.Action

/-! ### Settings -/

/-- The path of a settings file: the given one, if it is not empty, or else
that of the environment. No path is the empty one. -/
def settingsPath (given : Option Text) (s : Session) : Text :=
  match given with
  | some (c :: cs) => c :: cs
  | _ => s.settingsVar.getD []

/-- The settings of a file, or the default without one. -/
def loadSettings (given : Option Text) : Action Settings := do
  let s ← get
  let path := settingsPath given s
  if path = [] then return .default
  else
    let octets ← accessOr (.settingsUnreadable path)
      (← look fun d here => d.readFile here path)
    ofExcept (Settings.ofOctets s.host.yaml path octets)

/-! ### Stages -/

/-- The annotation and the path must not be empty, and the path must lead to
a file. -/
def validate (annotationName path : Text) : Action Unit := do
  if annotationName = [] then refuse .noAnnotationName
  else if path = [] then refuse .noSourcePath
  else if ← look fun d here => d.isFile here path then return ()
  else refuse .sourceMissing

/-- The text of a source file. -/
def readSource (path : Text) : Action Text := do
  let octets ← accessOr (.sourceUnreadable path)
    (← look fun d here => d.readFile here path)
  return sourceText octets

/-- The logger for functions. -/
def signatureLogger : Text := Audit.subLogger "signature_extractor".toText

/-- The logger for test files. -/
def stubLogger : Text := Audit.subLogger "stub_renderer".toText

/-- The loggers that every run has from its beginning. -/
def loggers : List Text :=
  [Audit.mainLogger, signatureLogger, stubLogger, BuildFile.logger]

/-- The annotated functions of a source text, with a record of each. -/
def findFunctions (source annotationName : Text) : Action (List Signature) := do
  let sigs := signatures annotationName source
  log signatureLogger Level.info
    ("Found ".toText ++ Text.ofNat sigs.length ++
      " function(s) annotated with @".toText ++ annotationName)
  sigs.forM fun s => log signatureLogger Level.debug (char ' ' :: char ' ' :: s.summary)
  return sigs

/-- The annotated functions of a source text, of which there must be one. -/
def extract (source annotationName : Text) : Action (List Signature) := do
  match ← findFunctions source annotationName with
  | [] => refuse .noFunctions
  | sigs => return sigs

/-- A content written to a file that has been opened, if it can be encoded. -/
def fill (path : Text) (place : Location) (content : Text) : Action Unit := do
  match Encoding.utf8.refusal? content with
  | some what => throw (.unencodable what)
  | none =>
    let refusal? := (← host).refusal?
    accessOr (.testUnwritable path)
      (← changeMost fun d _ => d.fill refusal? place (Utf8.encode content))

/-- A file written in a directory that is made where it is missing; the result
is its absolute path. The file is opened before its content is looked at. -/
def write (dir name content : Text) : Action Text := do
  let path := Path.joinTo dir name
  let room := (← host).testRoom
  accessOr (.testUnwritable path)
    (← changeMost fun d here => d.makeDirs here (room + 1) dir)
  let place ← accessOr (.testUnwritable path)
    (← changeFor fun d here => d.openFile here path)
  fill path place content
  log stubLogger Level.info ("Wrote ".toText ++ path)
  return Path.absolute (← herePath) path

end Generator

/-- What a run has made; a dry run has no test path. -/
structure Generated where
  testPath : Option Text
  content : Text
  signatures : List Signature
  deriving DecidableEq, Repr

namespace Generator

open TestScaffold.Action

/-- The test file of a source file, and whether it is to be written. -/
def generate (settings : Settings) (dryRun : Bool) (annotationName path : Text) :
    Action Generated := do
  validate annotationName path
  let buildFile ← BuildFile.find path
  if !(← BuildFile.hasTestDependencies buildFile settings.dependencyMarker) then
    refuse .noTestDependencies
  let package ← ofExcept (Layout.packageName settings.sourceRoots path)
  log Audit.mainLogger Level.info
    ("Package: ".toText ++
      if package = [] then "<default>".toText else package)
  let source ← readSource path
  print "Finding functions...\n".toText
  let sigs ← extract source annotationName
  print "Generating Unit Tests...\n".toText
  let (dir, name) ← ofExcept (Layout.testPlace path)
  let content := TestFile.render package (Path.ofText path).stem name
    (Stub.renderAll sigs)
  if dryRun then
    log Audit.mainLogger Level.info
      ("Dry run: skipping write of ".toText ++ Path.joinTo dir name)
    return ⟨none, content, sigs⟩
  else
    return ⟨some (← write dir name content), content, sigs⟩

end Generator

end TestScaffold
