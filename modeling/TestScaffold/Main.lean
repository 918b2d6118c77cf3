import Std.Time
import TestScaffold.CommandLine.Run

/-!
The program on a real disk.

It looks at all places that a run may ask for, lets the run happen on a disk
that has what was seen there, and then makes on the real disk what the run has
made on the other one. What the run does is decided without looking anywhere
else.
-/

namespace TestScaffold

/-- A text as the system takes it. A half has an escape in its place. -/
def systemText (s : Text) : String :=
  String.ofList (s.flatMap fun
    | char c => [c]
    | .half n => '\\' :: 'u' :: (Nat.toDigits 16 (0xD800 + n)))

namespace Outlook

/-! ### What a run may ask for -/

/-- The logs that would belong to a directory or to one above it, as far as
they are searched for. -/
def logsAbove : Nat → Location → List Text
  | 0, _ => []
  | depth + 1, l =>
    Disk.pathTo (Audit.fileName :: Audit.logsName :: Audit.markerName :: l) ::
      match l with
      | [] => []
      | _ :: up => logsAbove depth up

/-- The log in a directory. -/
def logIn (dir : Text) : Text := Path.joinTo dir Audit.fileName

/-- The paths that the source file of a run leads to. -/
def aroundSource (path : Text) : List Text :=
  let builds :=
    match Layout.moduleRoot path with
    | .ok root => BuildFile.names.map (Path.joinTo root)
    | .error _ => []
  let tests :=
    match Layout.testPlace path with
    | .ok (dir, name) => [Path.joinTo dir name]
    | .error _ => []
  path :: builds ++ tests

/-- The paths that a run may ask for. -/
def paths (s : Session) : List Text :=
  let asked :=
    match CommandLine.Request.parse s.host.dialect (s.arguments.drop 1) with
    | .ok (.run a) =>
      aroundSource a.path ++ a.config.toList ++ a.logDir.toList.map logIn
    | _ => []
  logsAbove Audit.searchDepth s.here ++ s.settingsVar.toList ++
    s.logDirVar.toList.map logIn ++ asked

/-! ### Looking at a disk -/

/-- The answer to a question, unless there is none. -/
def ask {α : Type} (question : IO α) : IO (Option α) := do
  try return some (← question) catch _ => return none

/-- The path of a location, as the system takes it. -/
def systemPath (l : Location) : String := systemText (Disk.pathTo l)

/-- What stands at a location that no link leads to. -/
def nodeAt (l : Location) : IO Node := do
  if (← ask (IO.FS.realPath (systemPath ([char '.'] :: l)))).isSome then return .dir
  else
    match ← ask (IO.FS.readBinFile (systemPath l)) with
    | some octets => return .file octets.toList
    | none => return .faulty

/-- The disk with all that there is on the way to a location. -/
def observe (d : Disk) : Location → IO Disk
  | [] => return d
  | c :: up => do
    let d ← observe d up
    if (d.get? (c :: up)).isSome then return d
    else return d.put (c :: up) (← nodeAt (c :: up))

/-- The disk with all that there is on the way along the parts of a path, and
where that way goes through links. -/
def follow (d : Disk) (l : Location) : List Text → IO Disk
  | [] => return d
  | c :: rest =>
    if c = [char '.', char '.'] then follow d l.tail rest
    else do
      match ← ask (IO.FS.realPath (systemPath (c :: l))) with
      | none => return d
      | some real =>
        let m := (Path.partsOf (toString real).toText).reverse
        let d ← observe d m
        if m = c :: l then follow d m rest
        else follow (d.put (c :: l) (.link (Disk.pathTo m))) m rest

/-- The session with a disk that has all that the run may ask for. -/
def look (s : Session) : IO Session := do
  let d ← observe s.disk s.here
  let d ← (paths s).foldlM
    (fun d path => follow d (Disk.origin s.here path) (Path.partsOf path)) d
  return { s with disk := d }

/-! ### Changing a disk -/

/-- What has changed made on the disk itself, in the order in which it was
made. -/
def settle (before after : Disk) : IO Unit :=
  after.nodes.reverse.forM fun (l, n) => do
    if before.get? l ≠ some n then
      match n with
      | .dir => IO.FS.createDirAll (systemPath l)
      | .file octets => IO.FS.writeBinFile (systemPath l) ⟨octets.toArray⟩
      | _ => return ()

end Outlook

/-! ### A run -/

/-- The host of the program: how deep it can go from its beginning, and an output
that is kept in UTF-8. What the system refuses shows when the disk is changed. -/
def Host.here : Host :=
  { lenient 992 990 .late with
    console := .utf8
    lossReport := fun r => "--- Logging error ---\n".toText ++ Text.quote r.message ++ [char '\n'] }

/-- A session that begins now, with the given arguments. -/
def Session.begin (args : List Text) : IO Session := do
  let here := (toString (← IO.FS.realPath ".")).toText
  let now ← Std.Time.PlainDateTime.now
  return {
    host := Host.here
    disk := ⟨[]⟩
    here := (Path.partsOf here).reverse
    settingsVar := (← IO.getEnv "UTGEN_CONFIG").map (·.toText)
    logDirVar := (← IO.getEnv "UTGEN_LOG_DIR").map (·.toText)
    arguments := CommandLine.programName :: args
    stamp := (now.format "uuuu-MM-dd'T'HH:mm:ss").toText
    elapsed := []
    journal := .start ⟨Level.warning, []⟩ Generator.loggers
    stdout := []
    stderr := []
    records := [] }

/-- A time as seconds with one digit after the point. -/
def secondsText (milliseconds : Nat) : Text :=
  Text.ofNat (milliseconds / 1000) ++
    char '.' :: Text.ofNat (milliseconds / 100 % 10)

/-- The status that the system is told, and what is said about a run that
failed. -/
def report : Except Failure Status → UInt32 × Text
  | .ok (.number n) => ((n % 256).toNat.toUInt32, [])
  | .ok (.flag b) => (if b then 1 else 0, [])
  | .ok .absent => (0, [])
  | .ok (.text t) => (1, t ++ [char '\n'])
  | .error f => (1, f.kind ++ ": ".toText ++ f.message ++ [char '\n'])

/-- A run of the program. Nearly all of its time goes into looking at the
disk, which is the time that the journal gets. -/
def runProgram (args : List Text) : IO UInt32 := do
  let began ← IO.monoMsNow
  let s ← Outlook.look (← Session.begin args)
  let s := { s with elapsed := secondsText ((← IO.monoMsNow) - began) }
  let (outcome, left) := CommandLine.program.runOn s
  let (status, complaint) := report (CommandLine.exitStatus outcome)
  Outlook.settle s.disk left.disk
  IO.print (systemText left.stdout)
  IO.eprint (systemText (left.stderr ++ complaint))
  return status

end TestScaffold

/-- The program, with the arguments of its command line. -/
def main (args : List String) : IO UInt32 :=
  TestScaffold.runProgram (args.map (·.toText))
