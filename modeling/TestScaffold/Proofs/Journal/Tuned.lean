import TestScaffold.Generator
import TestScaffold.Proofs.Session.Telling

/-!
The journal of a run.

Only the main logger of a run has a level and handlers of its own; the loggers
below it have none, and the root collects all records that are made.

* `Tuned` is a journal of this kind, with the level and the handlers of the main
  logger. It stays so when a record goes through it (`Tuned.decide`), and a
  record that reaches the level goes to the handlers that let it pass and to the
  collection (`Tuned.sinks_of_le`); any other one goes nowhere. It stays so too
  when the main logger gets a level or a handler (`Tuned.retune`,
  `Tuned.addHandler`), and is so at first (`Tuned.setLevel_start`).
* `logger_set` and the lemmas beside it say what the loggers are when one of them has
  changed.
* `Record.copies` says how often a record comes to a kind of sink, and
  `Record.written` what is written there of a list of records. Files take only
  `Record.kept` of them, and `Record.aired` is what the standard error output gets:
  lines from the console, and reports from the files that have lost one.
-/

namespace TestScaffold

open Audit (mainLogger)

lemma Level.info_pos : 0 < Level.info := by decide

/-! ### Sinks -/

/-- The sink is a file. -/
def Sink.isFile : Sink → Bool
  | .file _ _ => true
  | _ => false

/-- The sink is a file at this place. -/
def Sink.standsAt (l : Location) : Sink → Bool
  | .file _ place => place = l
  | _ => false

namespace Record

/-- How often some handlers pass a record on to the sinks of a kind. -/
def copies (hs : List Handler) (p : Sink → Bool) (r : Record) : ℕ :=
  hs.countP fun h => h.level ≤ r.level && p h.sink

/-- What is written of some records by some handlers to the sinks of a kind. -/
def written (stamp : Text) (hs : List Handler) (p : Sink → Bool) (rs : List Record) : Text :=
  rs.flatMap fun r => (List.replicate (r.copies hs p) (r.line stamp)).flatten

/-- The records that a file takes: those whose lines have octets. -/
def kept (stamp : Text) (rs : List Record) : List Record :=
  rs.filter fun r => (r.line stamp).AllChars

/-- What the standard error output gets from a sink that a record comes to. A
file is silent, unless it cannot take the line. -/
def airedAt (host : Host) (stamp : Text) (r : Record) : Sink → Text
  | .collection => []
  | .console => r.line stamp
  | .file _ _ => if (r.line stamp).AllChars then [] else host.lossReport r

/-- What it gets from a number of files that a record comes to. -/
def losses (host : Host) (stamp : Text) (n : ℕ) (r : Record) : Text :=
  if (r.line stamp).AllChars then [] else (List.replicate n (host.lossReport r)).flatten

/-- What the standard error output gets of some records by some handlers. -/
def aired (host : Host) (stamp : Text) (hs : List Handler) (rs : List Record) : Text :=
  rs.flatMap fun r =>
    (hs.filter fun h => h.level ≤ r.level).flatMap fun h => r.airedAt host stamp h.sink

variable {stamp : Text} {hs : List Handler} {p : Sink → Bool}

@[simp] lemma written_nil : written stamp hs p [] = [] := rfl

@[simp] lemma written_append (rs rs' : List Record) :
    written stamp hs p (rs ++ rs') = written stamp hs p rs ++ written stamp hs p rs' :=
  List.flatMap_append

@[simp] lemma kept_nil : kept stamp [] = [] := rfl

@[simp] lemma kept_append (rs rs' : List Record) :
    kept stamp (rs ++ rs') = kept stamp rs ++ kept stamp rs' :=
  List.filter_append _ _

@[simp] lemma aired_nil (host : Host) : aired host stamp hs [] = [] := rfl

/-- Each file that a line comes to and that cannot take it makes one report. -/
lemma flatMap_airedAt (host : Host) (r : Record) (hfiles : ∀ h ∈ hs, h.sink.isFile = true) :
    (hs.flatMap fun h => r.airedAt host stamp h.sink) = r.losses host stamp hs.length := by
  induction hs with
  | nil => simp [losses]
  | cons h hs ih =>
      obtain ⟨path, l, hsink⟩ : ∃ path l, h.sink = .file path l := by
        have hfile := hfiles h List.mem_cons_self
        cases hsink : h.sink with
        | file path l => exact ⟨path, l, rfl⟩
        | _ =>
            rw [hsink] at hfile
            cases hfile
      rw [List.flatMap_cons, ih fun x hx => hfiles x (List.mem_cons_of_mem h hx), hsink, airedAt,
        losses, losses]
      split
      · rfl
      · rw [List.length_cons, List.replicate_succ, List.flatten_cons]

@[simp] lemma aired_append (host : Host) (rs rs' : List Record) :
    aired host stamp hs (rs ++ rs') = aired host stamp hs rs ++ aired host stamp hs rs' :=
  List.flatMap_append

end Record

/-! ### Loggers -/

namespace Journal

/-- To set a logger is to update the function from names to loggers. -/
lemma logger_set (j : Journal) (name : Text) (l : Logger) :
    (j.set name l).logger = Function.update j.logger name l := by
  funext m
  by_cases hm : m = name
  · rw [hm, logger_set_self, Function.update_self]
  · rw [logger_set_of_ne j hm, Function.update_of_ne hm]

lemma logger_setLevel (j : Journal) (name : Text) (level : ℤ) :
    (j.setLevel name level).logger =
      Function.update j.logger name ⟨level, (j.logger name).handlers⟩ :=
  logger_set j name _

lemma logger_addHandler (j : Journal) (name : Text) (h : Handler) :
    (j.addHandler name h).logger = Function.update j.logger name
      ⟨(j.logger name).level, (j.logger name).handlers ++ [h]⟩ :=
  logger_set j name _

/-! ### The journal of a run -/

/-- The journal of a run, whose main logger has the level and the handlers. What
is remembered of levels is true of it. -/
structure Tuned (level : ℤ) (hs : List Handler) (j : Journal) : Prop where
  tree : j.tree = Generator.loggers.foldl Lineage.meet .start
  main : j.logger mainLogger = ⟨level, hs⟩
  root : (j.logger rootLogger).handlers = [⟨.collection, 0⟩]
  others : ∀ n ∈ Generator.loggers, n ≠ mainLogger → j.logger n = .fresh
  verdicts : ∀ n l b, j.verdicts.lookup (n, l) = some b → b = (0 < l && j.level n ≤ l)
  pos : 0 < level
  /-- No record is collected twice. -/
  apart : ∀ h ∈ hs, h.sink ≠ .collection

/-- The loggers of a run are there from its beginning. -/
lemma meet_of_tree {j : Journal} {n : Text}
    (h : j.tree = Generator.loggers.foldl Lineage.meet .start) (hn : n ∈ Generator.loggers) :
    j.meet n = j := by
  have hall : ∀ n ∈ Generator.loggers, (Generator.loggers.foldl Lineage.meet .start).meet n =
      Generator.loggers.foldl Lineage.meet .start := by decide
  rw [Journal.meet, h, hall n hn, ← h]

namespace Tuned

variable {level : ℤ} {hs : List Handler} {j : Journal} {r : Record} {n : Text}

/-- The loggers of the generator have all been met before. -/
lemma meet (h : j.Tuned level hs) (hn : n ∈ Generator.loggers) : j.meet n = j :=
  meet_of_tree h.tree hn

/-- A logger of a run stands at the main logger or right below it. -/
lemma line (h : j.Tuned level hs) (hn : n ∈ Generator.loggers) :
    j.tree.line n = if n = mainLogger then [mainLogger, rootLogger]
      else [n, mainLogger, rootLogger] := by
  have hall : ∀ n ∈ Generator.loggers, (Generator.loggers.foldl Lineage.meet .start).line n =
      if n = mainLogger then [mainLogger, rootLogger] else [n, mainLogger, rootLogger] := by
    decide
  rw [h.tree, hall n hn]

/-- The level in effect is that of the main logger. -/
lemma level_eq (h : j.Tuned level hs) (hn : n ∈ Generator.loggers) : j.level n = level := by
  have hpos := h.pos.ne'
  rw [Journal.level, h.line hn]
  split
  · simp [h.main, hpos]
  · next hne => simp [h.main, h.others n hn hne, Logger.fresh, hpos]

/-- The level of the main logger decides for all loggers below it. -/
lemma accepts_iff (h : j.Tuned level hs) (hn : r.logger ∈ Generator.loggers) (hr : 0 < r.level) :
    j.accepts r.logger r.level ↔ level ≤ r.level := by
  rw [Journal.accepts]
  cases hlook : j.verdicts.lookup (r.logger, r.level) with
  | none => simp [h.level_eq hn, hr]
  | some b => simp [h.verdicts _ _ _ hlook, h.level_eq hn, hr]

/-- Remembering a level that is true leaves the journal tuned. -/
lemma decide (h : j.Tuned level hs) (n : Text) (l : ℤ) : (j.decide n l).Tuned level hs where
  tree := h.tree
  main := h.main
  root := h.root
  others := h.others
  verdicts m k b hb := by
    change b = (0 < k && j.level m ≤ k)
    rw [Journal.decide, List.lookup_cons] at hb
    split at hb
    · next heq =>
        obtain ⟨rfl, rfl⟩ : m = n ∧ k = l := by simpa using heq
        obtain rfl := Option.some.inj hb
        rw [Journal.accepts]
        cases hlook : j.verdicts.lookup (m, k) with
        | none => rfl
        | some b => exact h.verdicts _ _ _ hlook
    · exact h.verdicts m k b hb
  pos := h.pos
  apart := h.apart

/-- Where a record goes that reaches the level. -/
lemma sinks_of_le (h : j.Tuned level hs) (hn : r.logger ∈ Generator.loggers)
    (hr : level ≤ r.level) :
    j.sinks r = (hs.filter (·.level ≤ r.level)).map (·.sink) ++ [.collection] := by
  have hpos : 0 < r.level := h.pos.trans_le hr
  rw [Journal.sinks, if_pos ((h.accepts_iff hn hpos).mpr hr), h.line hn]
  split
  · simp [h.main, h.root, hpos.le]
  · next hne => simp [h.main, h.root, h.others _ hn hne, Logger.fresh, hpos.le]

/-- Any other record goes nowhere. -/
lemma sinks_of_lt (h : j.Tuned level hs) (hn : r.logger ∈ Generator.loggers) (hpos : 0 < r.level)
    (hr : r.level < level) : j.sinks r = [] := by
  rw [Journal.sinks, if_neg (mt (h.accepts_iff hn hpos).mp (not_le.mpr hr))]

/-! ### Tuning -/

/-- The main logger gets another level, and other handlers. -/
lemma retune {l : ℤ} {hs' : List Handler} (h : j.Tuned level hs) (hpos : 0 < l)
    (happart : ∀ x ∈ hs', x.sink ≠ .collection) :
    ({ j.set mainLogger ⟨l, hs'⟩ with verdicts := [] } : Journal).Tuned l hs' where
  tree := h.tree
  main := logger_set_self j mainLogger _
  root := by
    have hne : rootLogger ≠ mainLogger := by decide
    exact (congrArg Logger.handlers (logger_set_of_ne j hne _)).trans h.root
  others n hn hne := (logger_set_of_ne j hne _).trans (h.others n hn hne)
  verdicts n l b hb := by simp at hb
  pos := hpos
  apart := happart

/-- One more handler changes no level, so what is remembered stays true. -/
lemma addHandler {x : Handler} (h : j.Tuned level hs) (hx : x.sink ≠ .collection) :
    (j.addHandler mainLogger x).Tuned level (hs ++ [x]) := by
  have happart : ∀ y ∈ hs ++ [x], y.sink ≠ .collection := by
    simpa [or_imp, forall_and, hx] using h.apart
  have hset : j.addHandler mainLogger x = j.set mainLogger ⟨level, hs ++ [x]⟩ := by
    rw [Journal.addHandler, h.main]
  have hlevel : ∀ n, (j.addHandler mainLogger x).level n = j.level n := by
    intro n
    have hsame : ∀ m, ((j.addHandler mainLogger x).logger m).level = (j.logger m).level := by
      intro m
      rw [hset]
      by_cases hm : m = mainLogger
      · rw [hm, logger_set_self, h.main]
      · rw [logger_set_of_ne j hm]
    simp only [Journal.level, hsame]
    rfl
  have hnew := h.retune h.pos happart
  rw [← hset] at hnew
  exact { hnew with
    verdicts := fun n l b hb => by
      rw [hlevel]
      exact h.verdicts n l b hb }

/-- No logger but the root has a level or a handler in the beginning. -/
lemma logger_start {root : Logger} (hn : n ∈ Generator.loggers) :
    (Journal.start root Generator.loggers).logger n = .fresh := by
  have hroot : ∀ n ∈ Generator.loggers, (n == rootLogger) = false := by decide
  simp [Journal.logger, Journal.start, List.lookup_cons, hroot n hn]

/-- The main logger of a journal that has only been started gets a level. -/
lemma setLevel_start {root l : ℤ} (hpos : 0 < l) :
    ((Journal.start ⟨root, [⟨.collection, 0⟩]⟩ Generator.loggers).setLevel mainLogger l).Tuned
      l [] where
  tree := rfl
  main := by
    refine (logger_set_self _ mainLogger _).trans ?_
    rw [logger_start (by simp [Generator.loggers])]
    rfl
  root := by
    have hne : rootLogger ≠ mainLogger := by decide
    exact congrArg Logger.handlers (logger_set_of_ne _ hne _)
  others n hn hne := by
    exact (logger_set_of_ne (.start _ _) hne _).trans (logger_start hn)
  verdicts n l b hb := by simp [Journal.setLevel] at hb
  pos := hpos
  apart := by simp

end Tuned

end Journal

end TestScaffold
