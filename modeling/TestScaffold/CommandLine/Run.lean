import TestScaffold.CommandLine.Usage
import TestScaffold.Generator
import TestScaffold.Watch

/-!
A whole run of the program, from its arguments to its exit status.

* `runArguments` does what a command line asks for: the options that concern
  the journal come first, then the settings, then the generator. What the
  generator refuses is written to the standard error output, with status 1.
* `program` is the watched run; a command line that is refused has status 2.
* `exitStatus` is the status of a run that ended, as opposed to one that
  failed.
-/

namespace TestScaffold.CommandLine

open TestScaffold.Action

/-- Settings and generator, as the arguments ask for. -/
def generateFor (a : Arguments) : Action Generated := do
  let settings ← Generator.loadSettings a.config
  Generator.generate settings a.dryRun a.annotationName a.path

/-- The record of a run that the generator refuses. -/
def failedMessage (e : ScaffoldError) : Text :=
  "FAILED | ".toText ++ e.kind.name ++ ": ".toText ++ e.message

/-- The journal as the arguments ask for. -/
def setUpJournal (a : Arguments) : Action Unit := do
  match a.logDir with
  | some (c :: cs) =>
    discard (Audit.attach Audit.mainLogger (Path.ofText (c :: cs)) Level.info)
  | _ => pure ()
  if a.verbose then Audit.setLevel Audit.mainLogger Level.debug

/-- The run that the arguments ask for. -/
def runArguments (a : Arguments) : Action Unit := do
  setUpJournal a
  match ← attempt (generateFor a) with
  | .ok made =>
    match made.testPath with
    | none => print made.content
    | some path => print ("Test file created at: ".toText ++ path ++ [char '\n'])
  | .error (.scaffold e) =>
    log Audit.mainLogger Level.info (failedMessage e)
    complain ("Error: ".toText ++ e.message ++ [char '\n'])
    throw (.exit (.number 1))
  | .error f => throw f

/-- The run of the program with the given arguments. -/
def body (args : List Text) : Action Int := do
  match Request.parse (← host).dialect args with
  | .error f =>
    complain (refusal f)
    throw (.exit (.number 2))
  | .ok .help =>
    print help
    throw (.exit (.number 0))
  | .ok (.run a) =>
    runArguments a
    return 0

/-- The watched run of the program with the arguments of the session. -/
def program : Action Int := do
  let args := (← get).arguments.drop 1
  watch .number (body args)

/-- The exit status of a run that ended. -/
def exitStatus : Except Failure Int → Except Failure Status
  | .ok n => .ok (.number n)
  | .error (.exit status) => .ok status
  | .error f => .error f

end TestScaffold.CommandLine
