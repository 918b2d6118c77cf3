import TestScaffold.Error
import TestScaffold.Host

/-!
A session: all that a run can look at and change, and the actions on it.

* A `Session` holds the disk with its working directory, the environment, the
  journal, what has been written to the two outputs, and the host.
* An `Action` takes a session to a session, whether it ends with a result or
  with a `Failure`: what was done before a failure stays done.
* `Session.log` sends a record to the sinks that the journal names for it. Files
  are kept in UTF-8, and a line that has no encoding is lost there.
-/

namespace TestScaffold

/-- All that a run can look at and change. -/
structure Session where
  host : Host
  disk : Disk
  /-- The working directory. -/
  here : Location
  /-- The path of a settings file, if the environment has one. -/
  settingsVar : Option Text
  /-- The directory of the audit log, if the environment has one. -/
  logDirVar : Option Text
  /-- The name of the program and its arguments. -/
  arguments : List Text
  /-- The time, as it is written before each record. -/
  stamp : Text
  /-- The seconds that a run takes. -/
  elapsed : Text
  journal : Journal
  stdout : Text
  stderr : Text
  /-- What went to the collection of records. -/
  records : List Record

namespace Session

/-- The path of the working directory. -/
def herePath (s : Session) : Text := Disk.pathTo s.here

/-- A record written to one place. -/
def deliver (r : Record) (s : Session) : Sink → Session
  | .collection => { s with records := s.records ++ [r] }
  | .console => { s with stderr := s.stderr ++ r.line s.stamp }
  | .file _ place =>
    let line := r.line s.stamp
    match Encoding.utf8.refusal? line with
    | none => { s with disk := s.disk.append place (Utf8.encode line) }
    | some _ => { s with stderr := s.stderr ++ s.host.lossReport r }

/-- A record sent to all places that the journal has for it. Its logger is
made if there is none. -/
def log (s : Session) (r : Record) : Session :=
  let j := (s.journal.meet r.logger).decide r.logger r.level
  (j.sinks r).foldl (deliver r) { s with journal := j }

end Session

/-- A step of a run. The session is the one that is left, also by a step that
fails. -/
abbrev Action (α : Type) : Type := ExceptT Failure (StateM Session) α

namespace Action

variable {α : Type}

/-- The result of an action and the session that it leaves. -/
def runOn (a : Action α) (s : Session) : Except Failure α × Session :=
  a.run.run s

/-- What an action ends with, as a result: nothing escapes from it. -/
def attempt (a : Action α) : Action (Except Failure α) :=
  ExceptT.mk do return .ok (← a.run)

/-- The action that is refused by the generator. -/
def refuse (e : ScaffoldError) : Action α := throw (.scaffold e)

/-- The answer to an access. -/
def ofAccess : Except AccessError α → Action α
  | .ok a => pure a
  | .error e => throw (.ofAccess e)

/-- The answer to an access, where what the system refuses is an error of the
generator. -/
def accessOr (wrap : SystemError → ScaffoldError) :
    Except AccessError α → Action α
  | .ok a => pure a
  | .error (.system e) => refuse (wrap e)
  | .error e => throw (.ofAccess e)

/-! ### Looking -/

/-- What the disk says, seen from the working directory. -/
def look (f : Disk → Location → α) : Action α := do
  let s ← get
  return f s.disk s.here

/-- The path of the working directory. -/
def herePath : Action Text := return (← get).herePath

/-- What the run meets and does not decide. -/
def host : Action Host := return (← get).host

/-! ### Changing -/

/-- A change of the disk that may be refused, and then has not happened. -/
def change (f : Disk → Location → Except AccessError Disk) :
    Action (Except AccessError Unit) := do
  let s ← get
  match f s.disk s.here with
  | .ok d =>
    set { s with disk := d }
    return .ok ()
  | .error e => return .error e

/-- A change of the disk that gives a result, if it is not refused. -/
def changeFor (f : Disk → Location → Except AccessError (Disk × α)) :
    Action (Except AccessError α) := do
  let s ← get
  match f s.disk s.here with
  | .ok (d, a) =>
    set { s with disk := d }
    return .ok a
  | .error e => return .error e

/-- A change of the disk that may be refused halfway. -/
def changeMost (f : Disk → Location → Except AccessError Unit × Disk) :
    Action (Except AccessError Unit) := do
  let s ← get
  let (answer, d) := f s.disk s.here
  set { s with disk := d }
  return answer

/-- A change of the journal. -/
def record (f : Journal → Journal) : Action Unit :=
  modify fun s => { s with journal := f s.journal }

/-- A text written to the standard output, all of it or, if it cannot be encoded
there, nothing. -/
def print (t : Text) : Action Unit := do
  let s ← get
  match s.host.console.refusal? t with
  | none => set { s with stdout := s.stdout ++ t }
  | some what => throw (.unencodable what)

/-- A text written to the standard error output, which has an escape for each
code point that it lacks. -/
def complain (t : Text) : Action Unit :=
  modify fun s => { s with stderr := s.stderr ++ t }

/-- A message of a logger. -/
def log (logger : Text) (level : Int) (message : Text) : Action Unit :=
  modify fun s => s.log ⟨logger, level, message⟩

end Action

end TestScaffold
