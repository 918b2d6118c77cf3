import TestScaffold.Audit

/-!
Watched runs: a run whose beginning and end are in the journal.

`watch` sets up the main logger, records the start, lets the body run, and
records how it ended. The outcome of the body is passed on unchanged.

* A body that returns a number ends with that number, any other one with zero;
* one that exits ends with the number it exits with, or with one;
* one that fails ends with two, and the failure has a record of its own.

A number of too many digits cannot be written: such an end has no record, and
this is then the failure that is passed on.
-/

namespace TestScaffold

open TestScaffold.Action Audit

/-- The exit value of a status that is no number, if nothing went wrong or if
something did. -/
def Status.exitValue (other : Int) : Status → Text
  | .number n => Text.ofInt n
  | .flag b => Status.message (.flag b)
  | _ => Text.ofInt other

/-- The exit value of a run, given what its result amounts to. -/
def exitValue : Except Failure Status → Text
  | .ok status => status.exitValue 0
  | .error (.exit status) => status.exitValue 1
  | .error f => Text.ofInt (if f.isError then 2 else 0)

/-- Whether a status is no number of too many digits. -/
def Status.isWritable : Status → Bool
  | .number n => (Text.ofNat n.natAbs).length ≤ Text.numeralMax
  | _ => true

/-- Whether the exit value of a run can be written. -/
def exitIsWritable : Except Failure Status → Bool
  | .ok status | .error (.exit status) => status.isWritable
  | .error _ => true

namespace Watch

/-- The record that a run begins with. -/
def startMessage (args : List Text) (here : Text) : Text :=
  "START | args=".toText ++ Text.quoteList args ++ " cwd=".toText ++ here

/-- The record of a failure. -/
def failureMessage (f : Failure) : Text :=
  "EXCEPTION | ".toText ++ f.kind ++ ": ".toText ++ f.message

/-- The record that a run ends with. -/
def endMessage (exit elapsed : Text) : Text :=
  "END   | exit=".toText ++ exit ++ " duration=".toText ++ elapsed ++ [char 's']

end Watch

/-- A watched run of a body, where `status` says what a result amounts to. -/
def watch {α : Type} (status : α → Status) (body : Action α) : Action α := do
  discard (setUp mainLogger [] Level.info)
  let s ← get
  log mainLogger Level.info (Watch.startMessage (s.arguments.drop 1) s.herePath)
  let outcome ← attempt body
  match outcome with
  | .error f =>
    if f.isError then log mainLogger Level.error (Watch.failureMessage f)
  | .ok _ => pure ()
  let ending := outcome.map status
  if exitIsWritable ending then
    log mainLogger Level.info
      (Watch.endMessage (exitValue ending) (← get).elapsed)
    ofExcept outcome
  else throw .numberTooLong

end TestScaffold
