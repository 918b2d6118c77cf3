import TestScaffold.Disk.Basic
import TestScaffold.Journal.Lineage
import TestScaffold.Text.Numeral

/-!
The journal: loggers, their levels, and where their records go.

Loggers form a tree with one root above all. A record is kept if its level
reaches the one that is in effect for its logger, and then goes to the
handlers of the logger and of all loggers above it; each handler drops what is
below its own level.

* `Journal.level` is the level in effect, the nearest one that is set;
* `Journal.sinks` are the places that a record goes to, in order, and
  `Record.line` is what is written there;
* `Journal.decide` remembers which levels a logger keeps. What is remembered
  stands until a level is set, also when the tree has changed meanwhile.

A journal is a value: what is done to one logger leaves the others alone
(`logger_set_self`, `logger_set_of_ne`).
-/

namespace TestScaffold

/-! ### Levels and records -/

namespace Level

def debug : Int := 10

def info : Int := 20

def warning : Int := 30

def error : Int := 40

def critical : Int := 50

/-- The name of a level; those between the named ones have numbers. -/
def name (n : Int) : Text :=
  if n = debug then "DEBUG".toText
  else if n = info then "INFO".toText
  else if n = warning then "WARNING".toText
  else if n = error then "ERROR".toText
  else if n = critical then "CRITICAL".toText
  else "Level ".toText ++ Text.ofInt n

end Level

/-- One message of a logger. -/
structure Record where
  logger : Text
  level : Int
  message : Text
  deriving DecidableEq, Repr

/-- The record as one line, with the time it was made. -/
def Record.line (stamp : Text) (r : Record) : Text :=
  Text.join " | ".toText
    [stamp, r.logger, Text.padRight 5 (char ' ') (Level.name r.level), r.message] ++
  [char '\n']

/-! ### Loggers -/

/-- A place that records go to. A file is known by the path it was opened at
and by where it stands, so that it is still found when paths have changed. -/
inductive Sink
  /-- The list of all records of a session. -/
  | collection
  | console
  | file (path : Text) (place : Location)
  deriving DecidableEq, Repr

structure Handler where
  sink : Sink
  level : Int
  deriving DecidableEq, Repr

/-- A level, zero if none is set, and handlers in the order in which they were
added. -/
structure Logger where
  level : Int
  handlers : List Handler
  deriving DecidableEq, Repr

/-- A logger that nothing has been done to. -/
def Logger.fresh : Logger := ⟨0, []⟩

/-- The path of the file of a handler, if it writes to one. -/
def Handler.path? (h : Handler) : Option Text :=
  match h.sink with
  | .file path _ => some path
  | _ => none

/-- The tree of loggers, those that something has been done to, the names for
which the set-up is complete, and whether loggers keep records of a level, as
far as this has been found out. -/
structure Journal where
  tree : Lineage
  loggers : List (Text × Logger)
  ready : List Text
  verdicts : List ((Text × Int) × Bool)
  deriving DecidableEq, Repr

namespace Journal

/-- A journal where only the loggers of the given names have been made, and
where the root is as given. -/
def start (root : Logger) (names : List Text) : Journal :=
  ⟨names.foldl Lineage.meet .start, [(rootLogger, root)], [], []⟩

/-- The journal with a logger of the given name. -/
def meet (j : Journal) (name : Text) : Journal := { j with tree := j.tree.meet name }

/-- The state of a logger. -/
def logger (j : Journal) (name : Text) : Logger :=
  (j.loggers.lookup name).getD .fresh

/-- The journal with the state of one logger replaced. -/
def set (j : Journal) (name : Text) (l : Logger) : Journal :=
  { j with loggers := (name, l) :: j.loggers.filter (·.1 ≠ name) }

/-- The journal with one more handler of a logger. -/
def addHandler (j : Journal) (name : Text) (h : Handler) : Journal :=
  let l := j.logger name
  j.set name { l with handlers := l.handlers ++ [h] }

/-- The journal with the level of one logger changed. -/
def setLevel (j : Journal) (name : Text) (level : Int) : Journal :=
  { j.set name { j.logger name with level := level } with verdicts := [] }

/-- The journal with one more name whose set-up is complete. -/
def markReady (j : Journal) (name : Text) : Journal :=
  { j with ready := name :: j.ready }

/-- A logger that was set is what it was set to. -/
@[simp]
theorem logger_set_self (j : Journal) (name : Text) (l : Logger) :
    (j.set name l).logger name = l := by
  simp [logger, set]

/-- The other loggers stay as they are. -/
theorem logger_set_of_ne (j : Journal) {name other : Text} (h : other ≠ name)
    (l : Logger) : (j.set name l).logger other = j.logger other := by
  have hb : (other == name) = false := by simpa using h
  simp only [logger, set, List.lookup_cons, hb]
  congr 1
  induction j.loggers with
  | nil => rfl
  | cons p ps ih =>
    obtain ⟨n, m⟩ := p
    by_cases hn : n = name
    · simpa [hn, List.lookup_cons, hb] using ih
    · cases ho : other == n <;> simp_all [List.lookup_cons]

/-- The level in effect for a logger. -/
def level (j : Journal) (name : Text) : Int :=
  (((j.tree.line name).map fun n => (j.logger n).level).find? (· ≠ 0)).getD 0

/-- Whether a logger keeps records of a level. -/
def accepts (j : Journal) (name : Text) (level : Int) : Bool :=
  (j.verdicts.lookup (name, level)).getD (0 < level && j.level name ≤ level)

/-- The journal that remembers whether a logger keeps records of a level. -/
def decide (j : Journal) (name : Text) (level : Int) : Journal :=
  { j with verdicts := ((name, level), j.accepts name level) :: j.verdicts }

/-- The places that a record goes to. -/
def sinks (j : Journal) (r : Record) : List Sink :=
  if j.accepts r.logger r.level then
    (((j.tree.line r.logger).flatMap fun n => (j.logger n).handlers).filter
      (·.level ≤ r.level)).map (·.sink)
  else []

end Journal

end TestScaffold
