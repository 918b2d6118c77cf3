import TestScaffold.CommandLine.Word
import TestScaffold.Disk.Access
import TestScaffold.Journal
import TestScaffold.Yaml.Value

/-!
What a run meets and does not decide: the stack, the readers of YAML and of
command lines, the console, and a system that may refuse more than can be seen
on a disk.

A `Host` stays the same through a run, and what is said about runs is said for
any host. Missing directories are made one inside the call that makes the next
one, so the stack bounds their number.
-/

namespace TestScaffold

/-- All that a run meets and does not decide. -/
structure Host where
  /-- How many directories above that of a test may be missing. -/
  testRoom : Nat
  /-- How many directories above that of a log may be missing. -/
  logRoom : Nat
  /-- How command lines are read. -/
  dialect : CommandLine.Dialect
  /-- How settings are read. -/
  yaml : Yaml.Loader
  /-- What the standard output is kept in. -/
  console : Encoding
  /-- What is said, on the standard error output, about a record that the file
  of a log does not take. -/
  lossReport : Record → Text
  /-- Whether the system does not write a content, once a file is open. -/
  refusal? : Location → List UInt8 → Option Disk.Refusal
  /-- Whether the system does not list a directory. -/
  unlistable? : Location → Option Errno

namespace Host

/-- A host with a system that refuses nothing, where all texts can be written to
the console. -/
def lenient (testRoom logRoom : Nat) (dialect : CommandLine.Dialect) : Host where
  testRoom := testRoom
  logRoom := logRoom
  dialect := dialect
  yaml := Yaml.load
  console := .all
  lossReport _ := []
  refusal? _ _ := none
  unlistable? _ := none

/-- This host reads YAML with the reader of this library. -/
@[simp] theorem lenient_yaml (testRoom logRoom : Nat) (dialect : CommandLine.Dialect) :
    (lenient testRoom logRoom dialect).yaml = Yaml.load := by
  rw [lenient]

end Host

end TestScaffold
