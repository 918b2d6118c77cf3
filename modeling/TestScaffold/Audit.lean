import TestScaffold.Disk.Canonical
import TestScaffold.Session

/-!
The audit log: a file that every run leaves a trace in.

* `findLogDir` chooses the directory: the one that the environment names, or
  `.utgen/logs` in the nearest directory above that has a `.utgen`;
* `attach` adds the file of a directory to the handlers of a logger, unless
  the logger has it already, and `setUp` does this for a logger that was never
  set up before, together with a handler that shows warnings on the console;
* a log that cannot be opened is left out: the run goes on without it.
-/

namespace TestScaffold.Audit

open TestScaffold.Action

/-- The logger of the generator. -/
def mainLogger : Text := "utgen".toText

/-- A logger below that of the generator. -/
def subLogger (name : Text) : Text := mainLogger ++ char '.' :: name

/-- The name of the log in its directory. -/
def fileName : Text := "utgen-audit.log".toText

/-- The directory that marks where a log is kept. -/
def markerName : Text := ".utgen".toText

/-- The directory of the log in the marker. -/
def logsName : Text := "logs".toText

/-! ### The directory -/

/-- How many directories are searched for the marker. -/
def searchDepth : Nat := 10

/-- The path without links that a path stands for. -/
def canonical (path : Text) : Action Path := do
  match ← look fun d here => d.canonical here path with
  | .ok p => return p
  | .error e => throw (.ofResolve e)

/-- The log directory in the marker of a directory or of the nearest one
above it, among the given number of them. The directory is given by its
slashes and its parts, innermost first. -/
def searchUp : Nat → Nat → List Text → Action (Option Path)
  | 0, _, _ => return none
  | depth + 1, slashes, parts => do
    let marker : Path := ⟨slashes, (markerName :: parts).reverse⟩
    let found ← ofAccess
      (← look fun d here => d.isDirStrict here marker.toText)
    if found then
      let dir := marker.child logsName
      ofAccess (← change fun d here => d.ensureDirStrict here dir.toText)
      return some dir
    else
      match parts with
      | [] => return none
      | _ :: above => searchUp depth slashes above

/-- The directory of the audit log, if there is to be one. It is made. -/
def findLogDir (start : Text) : Action (Option Path) := do
  match (← get).logDirVar with
  | some (c :: cs) =>
    let dir := Path.ofText (c :: cs)
    let room := (← host).logRoom
    match ← changeMost fun d here => d.makePath here (room + 1) dir with
    | .ok () => return some dir
    | .error e => throw (.ofMaking e)
  | _ =>
    let start ← if start = [] then herePath else pure start
    let p ← canonical (Path.ofText start).toText
    searchUp searchDepth p.slashes p.parts.reverse

/-! ### Handlers -/

/-- Whether a handler of a logger writes to the file of the given path. -/
def attached (l : Logger) (path : Path) : Action Bool := do
  let paths := l.handlers.filterMap (·.path?)
  if paths = [] then return false
  else
    let place ← canonical path.toText
    return paths.any fun p => Path.ofText p = place

/-- The log of a directory opened, if the system allows it: the path that it
was opened at, and where it stands. -/
def openIn (dir : Path) : Action (Option (Text × Location)) := do
  let room := (← host).logRoom
  match ← changeMost fun d here => d.makePath here (room + 1) dir with
  | .error (.system _) => return none
  | .error e => throw (.ofMaking e)
  | .ok () =>
    let path := Path.absolute (← herePath) (dir.child fileName).toText
    match ← changeFor fun d here => d.openLog here path with
    | .error (.system _) => return none
    | .error e => throw (.ofAccess e)
    | .ok place => return some (path, place)

/-- The audit log of a directory added to a logger; the result is its path,
unless it cannot be opened. -/
def attach (name : Text) (dir : Path) (level : Int) : Action (Option Path) := do
  record (·.meet name)
  let path := dir.child fileName
  if ← attached ((← get).journal.logger name) path then return some path
  else
    match ← openIn dir with
    | none => return none
    | some (opened, place) =>
      record (·.addHandler name ⟨.file opened place, level⟩)
      return some path

/-- The level of a logger and of all its handlers changed. -/
def setLevel (name : Text) (level : Int) : Action Unit :=
  record fun j =>
    let j := (j.meet name).setLevel name level
    let l := j.logger name
    j.set name
      { l with handlers := l.handlers.map fun h => { h with level := level } }

/-- The name under which a logger is set up: a program that was started as a
whole goes by its file name. -/
def setUpName (name : Text) : Action Text := do
  if name = "__main__".toText then
    match (← get).arguments with
    | [] => return "unknown".toText
    | program :: _ => return (Path.ofText program).stem
  else return name

/-- A logger set up: its level, a handler for warnings on the console, and the
audit log of the given directory or else of the one that is found. What is set
up already stays as it is. -/
def setUp (name dir : Text) (level : Int) : Action Text := do
  let name ← setUpName name
  let logger := loggerName name
  if name ∈ (← get).journal.ready then return logger
  else
    record fun j => (j.meet logger).setLevel logger level
    if ((← get).journal.logger logger).handlers ≠ [] then
      record (·.markReady name)
      return logger
    else
      record (·.addHandler logger ⟨.console, Level.warning⟩)
      let found ←
        if dir = [] then findLogDir [] else pure (some (Path.ofText dir))
      match found with
      | none => pure ()
      | some d => discard (attach logger d level)
      record (·.markReady name)
      return logger

end TestScaffold.Audit
