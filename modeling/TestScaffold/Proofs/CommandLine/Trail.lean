import TestScaffold.Proofs.Audit.Handlers
import TestScaffold.Proofs.CommandLine.Outcome

/-!
The trail that a run leaves in its logs.

A run has at most two logs: the one that its set-up finds, and the one of the
arguments, which is attached after the start has been recorded.

* `Course.content_start`: the record of the start is in the log that was found,
  and in no other file.
* `Course.content_eq`: all later records are in both logs.
* `program_trail`: **what a run appends to its files**, for a run whose arguments
  ask for a log that can be opened. If the set-up finds another log, that has the
  whole trail, and the log of the arguments has all of it but the start.

A record whose line has no octets (`Record.kept`) is in no log: it is reported on the
standard error output in its place (`program_outcome`).
-/

namespace TestScaffold.CommandLine

open TestScaffold.Action TestScaffold.Generator

/-- The lines of some records, each written a number of times. -/
def lines (stamp : Text) (n : ℕ) (rs : List Record) : Text :=
  rs.flatMap fun r => (List.replicate n (r.line stamp)).flatten

/-- How many handlers write to the file at a place. -/
def writers (hs : List Handler) (l : Location) : ℕ := hs.countP (·.sink.standsAt l)

variable {a : Arguments} {s s₁ s₂ s₃ s' : Session} {name : Text} {W : Location → Prop}
  {made : Except Failure Generated} {logs own : List Handler} {rs rs' : List Record}
  {stamp : Text} {l : Location}

lemma lines_append (stamp : Text) (n : ℕ) (rs rs' : List Record) :
    lines stamp n (rs ++ rs') = lines stamp n rs ++ lines stamp n rs' :=
  List.flatMap_append

/-- A file gets the records of a run from all logs that stand at its place. -/
lemma written_standsAt (hlogs : ∀ x ∈ logs, x.level = Level.info)
    (hrs : ∀ r ∈ rs, a.level ≤ r.level) :
    Record.written stamp (a.handlers (console :: logs)) (·.standsAt l) (Record.kept stamp rs) =
      lines stamp (writers logs l) (Record.kept stamp rs) := by
  refine List.flatMap_congr fun r hr => ?_
  rw [copies_standsAt hlogs (hrs r (List.mem_filter.mp hr).1), writers]

/-- Where no file stands, no log writes. -/
lemma writers_eq_zero (hlogs : ∀ x ∈ logs, s.HasFile x)
    (hl : ∀ bs, s.disk.get? l ≠ some (.file bs)) : writers logs l = 0 := by
  rw [writers, List.countP_eq_zero]
  intro x hx hstands
  obtain ⟨path, place, bs, hsink, hfile⟩ := hlogs x hx
  rw [hsink, Sink.standsAt, decide_eq_true_eq] at hstands
  exact hl bs (hstands ▸ hfile)

namespace Course

/-- **The start is recorded in the log that was found**, before any other log is
attached. -/
lemma content_start (h : Course a made W s s₁ s₂ s₃ logs own rs s') (htree : s.disk.IsTree)
    (hhere : s.disk.get? s.here = some .dir) (l : Location) :
    (s₁.log s₁.startRecord).disk.content l =
      s.disk.content l ++
        Utf8.encode (lines s.stamp (writers logs l) (Record.kept s.stamp [s.startRecord])) := by
  have hbefore : s₁.disk.content l = s.disk.content l := h.setUp.adds.content_eq l
  by_cases hfile : ∃ bs, s₁.disk.get? l = some (.file bs)
  · obtain ⟨bs, hbs⟩ := hfile
    have hwritten : Record.written s₁.stamp (console :: logs) (·.standsAt l)
        (Record.kept s₁.stamp [s.startRecord]) =
          lines s.stamp (writers logs l) (Record.kept s.stamp [s.startRecord]) := by
      rw [← h.same.1.1]
      exact written_standsAt (a := { a with verbose := false })
        (fun x hx => (h.infos x (List.mem_append_left own hx)).1)
        (by simp [Session.startRecord, Arguments.level])
    rw [Disk.content_of_file (h.start.files l bs id hbs), hwritten, ← hbefore,
      Disk.content_of_file hbs]
  · have hnone := writers_eq_zero (h.found.2 htree hhere) (not_exists.mp hfile)
    have hafter : ∀ bs, (s₁.log s₁.startRecord).disk.get? l ≠ some (.file bs) := by
      intro bs hbs
      obtain ⟨n, hn, hshape⟩ := (Session.OnlyTold.log s₁ s₁.startRecord).symm.disk.grows l _ hbs
      cases n with
      | file bs' => exact hfile ⟨bs', hn⟩
      | _ => simp [Node.shape] at hshape
    rw [Disk.content_of_no_file hafter, ← hbefore,
      Disk.content_of_no_file (not_exists.mp hfile), hnone]
    simp [lines, Utf8.encode]

/-- Both logs are on the disk when the journal of the run is ready. -/
lemma hasFile {dir log : Path} (h : Course a made W s s₁ s₂ s₃ logs own rs s')
    (hgets : Audit.Gets (s₁.log s₁.startRecord) (console :: logs) dir Level.info s₂.disk
      (some log) own) (htree : s.disk.IsTree) (hhere : s.disk.get? s.here = some .dir) :
    ∀ x ∈ logs ++ own, s₂.HasFile x := by
  have htold := Session.OnlyTold.log s₁ s₁.startRecord
  intro x hx
  rcases List.mem_append.mp hx with hx | hx
  · obtain ⟨path, place, bs, hsink, hfile⟩ := h.found.2 htree hhere x hx
    have hget := h.start.files place bs id hfile
    exact ⟨path, place, _, hsink, h.journal.adds.get?_of_some hget⟩
  · refine hgets.hasFile (htold.disk.isTree (h.setUp.adds.isTree htree)) ?_ x hx
    have hhere₁ : s₁.here = s.here := by rw [h.setUp.rest]
    rw [htold.here, hhere₁]
    exact htold.disk.grows.get?_dir (h.setUp.adds.get?_of_some hhere)

/-- **All later records are in both logs**, and in no other file, unless the file
is overwritten by the test. -/
lemma content_eq (h : Course a made W s s₁ s₂ s₃ logs own rs s') {bs : List UInt8} (hW : ¬W l)
    (hfile : s₂.disk.get? l = some (.file bs)) :
    s'.disk.content l = s₂.disk.content l ++
      Utf8.encode (lines s.stamp (writers (logs ++ own) l) (Record.kept s.stamp
        (rs ++ (faults made ++ [s.endRecord (exitValue ((ending made).map .number))])))) := by
  obtain ⟨-, ⟨hstamp₂, -⟩, hstamp₃, -⟩ := h.same
  have hinfos : ∀ x ∈ logs ++ own, x.level = Level.info := fun x hx => (h.infos x hx).1
  have hsaid : (say s₃ made).stamp = s.stamp := hstamp₃
  have hget := h.finish.files l _ id (h.main.files l bs hW hfile)
  rw [hstamp₂, written_standsAt hinfos fun r hr => (h.routine r hr).1, hsaid,
    written_standsAt hinfos fun r => level_le_of_mem] at hget
  simp only [Disk.content_of_file hget, Disk.content_of_file hfile, Record.kept_append,
    lines_append, Utf8.encode_append, List.append_assoc]

end Course

/-- **What a run appends to its files**, where its arguments ask for a log that can
be opened. The start is in the log that the set-up has found, if there is one; all
records after it, up to the end, are in that log and in the one of the arguments,
once for each of the two that stands at the place; but records whose lines have no
octets are in no log. All other files are left alone. Where a run has come to writing
its test, the file that the path of the test leads to is left out of this. -/
theorem program_trail (hb : s.Begins) (htree : s.disk.IsTree)
    (hhere : s.disk.get? s.here = some .dir)
    (hparse : Request.parse s.host.dialect (s.arguments.drop 1) = .ok (.run a))
    (hsetUp : runOn (Audit.setUp Audit.mainLogger [] Level.info) s = (.ok name, s₁))
    (hjournal : runOn (setUpJournal a) (s₁.log s₁.startRecord) = (.ok (), s₂)) {dir log : Path}
    (hdir : a.ownDir? = some dir)
    (hattach : (runOn (Audit.attach Audit.mainLogger dir Level.info)
      (s₁.log s₁.startRecord)).1 = .ok (some log)) :
    let run := runOn program s
    let made := (runOn (generateFor a) s₂).1
    ∃ (found own : List Handler) (rs : List Record), found.length ≤ 1 ∧
      (s₁.journal.logger Audit.mainLogger).handlers = console :: found ∧
      Audit.Gets (s₁.log s₁.startRecord) (console :: found) dir Level.info s₂.disk (some log) own ∧
      (∀ x ∈ found ++ own, s₂.HasFile x) ∧
      (∃ before, rs = before ++ [s.endRecord (exitValue (run.1.map .number))]) ∧
      run.2.records = s.records ++ s.startRecord :: rs ∧
      ∀ l bs, s₂.disk.get? l = some (.file bs) →
        (Writes made ∧ run.2.HasTestAt a.path l) ∨
          run.2.disk.content l = s.disk.content l ++
            Utf8.encode (lines s.stamp (writers found l) (Record.kept s.stamp [s.startRecord]) ++
              lines s.stamp (writers (found ++ own) l) (Record.kept s.stamp rs)) := by
  intro run made
  rcases hmade : runOn (generateFor a) s₂ with ⟨made', s₃⟩
  rcases hrun : runOn program s with ⟨r, s'⟩
  have hsame : made = made' := by simp only [made, hmade]
  obtain ⟨rfl, -, -, logs, own, rs, W, s₄, hcourse, hplaces⟩ :=
    program_course hb hparse hsetUp hjournal hmade hrun
  obtain ⟨x, t, hrun', hgets⟩ := hcourse.asked dir hdir
  obtain rfl : some log = x := by
    rw [hrun'] at hattach
    exact (Except.ok.inj hattach).symm
  simp only [run, hrun, hsame]
  refine ⟨logs, own, _, hcourse.found.1, by rw [hcourse.setUp.tuned.main], hgets,
    hcourse.hasFile hgets htree hhere, ⟨rs ++ faults (told s.host.console made'), rfl⟩, ?_,
    fun l bs hfile => ?_⟩
  · rw [hcourse.records_eq, List.append_assoc]
  · by_cases hW : W l
    · obtain ⟨hwrites, hplace⟩ := hplaces l hW
      have htree₁ := (Session.OnlyTold.log s₁ s₁.startRecord).disk.isTree
        (hcourse.setUp.adds.isTree htree)
      exact .inl ⟨hwrites, hplace (hcourse.journal.adds.isTree htree₁)⟩
    · right
      rw [hcourse.content_eq hW hfile, hcourse.journal.adds.content_eq,
        hcourse.content_start htree hhere]
      simp only [Utf8.encode_append, List.append_assoc]

/-- A dry run on the disk of `oneModule`, with a log in the environment and another
one in its arguments. -/
def twoLogs : Session :=
  { oneModule with
    here := []
    logDirVar := some "env".toText
    arguments := [programName, "Gen".toText, "m/src/main/kotlin/A.kt".toText, "--dry-run".toText,
      "--log-dir".toText, "logs".toText]
    journal := .start ⟨Level.debug, [⟨.collection, 0⟩]⟩ loggers }

/-- The place of the log of the environment. -/
def envLog : Location := [Audit.fileName, "env".toText]

/-- The directory of the arguments, and the place of its log. -/
def ownDir : Path := Path.ofText "logs".toText

def ownLog : Location := [Audit.fileName, "logs".toText]

/-- This run after its set-up, and when its start has been recorded. -/
def twoLogsFound : Session := (runOn (Audit.setUp Audit.mainLogger [] Level.info) twoLogs).2

def twoLogsStarted : Session := twoLogsFound.log twoLogsFound.startRecord

lemma twoLogs_begins : twoLogs.Begins := ⟨Level.debug, rfl⟩

lemma twoLogs_setUp : runOn (Audit.setUp Audit.mainLogger [] Level.info) twoLogs =
    (.ok Audit.mainLogger, twoLogsFound) := by
  have hname : (runOn (Audit.setUp Audit.mainLogger [] Level.info) twoLogs).1 =
      .ok Audit.mainLogger := rfl
  exact Prod.ext hname rfl

lemma twoLogsStarted_isTree : twoLogsStarted.disk.IsTree := by
  obtain ⟨logs, hready, -⟩ := Audit.setUp_readies twoLogs_begins twoLogs_setUp
  have htree := hready.adds.isTree oneModule_isPlain.isTree
  exact (Session.OnlyTold.log twoLogsFound _).disk.isTree htree

/-- The directory of the arguments has a straight path, so its log is understood as
the one at its place. -/
lemma twoLogsStarted_straight : twoLogsStarted.disk.get? twoLogsStarted.here = some .dir ∧
    twoLogsStarted.disk.Straight twoLogsStarted.here (Audit.logPath ownDir).toText ∧
    twoLogsStarted.disk.canonical twoLogsStarted.here (Audit.logPath ownDir).toText =
      .ok (Path.ofText (Disk.pathTo ownLog)) := by
  have hhere : twoLogsStarted.disk.get? twoLogsStarted.here = some .dir := rfl
  have hstraight : twoLogsStarted.disk.Straight twoLogsStarted.here
      (Audit.logPath ownDir).toText := by
    decide
  exact ⟨hhere, hstraight, Disk.canonical_of_straight_of_isPath twoLogsStarted_isTree hhere
    hstraight (by decide) (by decide)⟩

/-- No log at this place is attached yet. -/
lemma twoLogsStarted_new : ∀ p ∈ Audit.paths
    ((twoLogsStarted.journal.meet Audit.mainLogger).logger Audit.mainLogger),
    Path.ofText p ≠ Path.ofText (Disk.pathTo ownLog) := by
  decide

lemma twoLogs_attach :
    (runOn (Audit.attach Audit.mainLogger ownDir Level.info) twoLogsStarted).1 =
      .ok (some (Audit.logPath ownDir)) := by
  rw [Audit.runOn_attach_of_canonical _ twoLogsStarted_straight.2.2 twoLogsStarted_new]
  rfl

/-- The arguments of this run. -/
def twoLogsArguments : Arguments :=
  ⟨"Gen".toText, "m/src/main/kotlin/A.kt".toText, none, true, some "logs".toText, false⟩

lemma twoLogs_parse :
    Request.parse twoLogs.host.dialect (twoLogs.arguments.drop 1) =
      .ok (.run twoLogsArguments) := rfl

lemma twoLogsArguments_ownDir : twoLogsArguments.ownDir? = some ownDir := rfl

/-- This run when the log of the arguments is attached too. -/
def twoLogsAttached : Session :=
  (runOn (Audit.attach Audit.mainLogger ownDir Level.info) twoLogsStarted).2

lemma twoLogs_setUpJournal :
    runOn (setUpJournal twoLogsArguments) twoLogsStarted = (.ok (), twoLogsAttached) := by
  have hdiscard : runOn (discard (Audit.attach Audit.mainLogger ownDir Level.info))
      twoLogsStarted = (.ok (), twoLogsAttached) :=
    runOn_discard_eq_ok.mpr ⟨_, Prod.ext twoLogs_attach rfl⟩
  rw [setUpJournal_eq, twoLogsArguments_ownDir]
  exact runOn_bind_of_ok hdiscard _

/-- A dry run writes no test. -/
lemma twoLogs_not_writes : ¬Writes (runOn (generateFor twoLogsArguments) twoLogsAttached).1 := by
  have hdry : (runOn (generateFor twoLogsArguments) twoLogsAttached).1.toOption.map
      Generated.testPath = some none := by
    -- the log is not looked for among those at hand, so that the run can be computed
    rw [twoLogsAttached,
      Audit.runOn_attach_of_canonical _ twoLogsStarted_straight.2.2 twoLogsStarted_new]
    decide +kernel
  intro hwrites
  cases hmade : (runOn (generateFor twoLogsArguments) twoLogsAttached).1 with
  | ok g =>
      rw [hmade] at hdry hwrites
      exact hwrites (Option.some.inj hdry)
  | error f =>
      rw [hmade] at hdry
      cases hdry

/-- All lines of this run have an encoding, so its logs take them all. -/
lemma twoLogs_kept (hrecords : (runOn program twoLogs).2.records = twoLogs.startRecord :: rs) :
    Record.kept twoLogs.stamp [twoLogs.startRecord] = [twoLogs.startRecord] ∧
      Record.kept twoLogs.stamp rs = rs := by
  have hchars : ((runOn program twoLogs).2.records.all fun r =>
      (r.line twoLogs.stamp).AllChars) = true := by
    obtain ⟨-, s₄, hs₄, hend⟩ := runOn_program twoLogs_parse twoLogs_setUp rfl
      twoLogs_setUpJournal Prod.mk.eta.symm Prod.mk.eta.symm
    rw [hend, hs₄, twoLogsAttached,
      Audit.runOn_attach_of_canonical _ twoLogsStarted_straight.2.2 twoLogsStarted_new]
    decide +kernel
  rw [hrecords, List.all_cons, Bool.and_eq_true, List.all_eq_true] at hchars
  exact ⟨List.filter_eq_self.mpr (by simpa using hchars.1), List.filter_eq_self.mpr hchars.2⟩

lemma twoLogsFound_handlers : (twoLogsFound.journal.logger Audit.mainLogger).handlers =
    [console, ⟨.file "/env/utgen-audit.log".toText envLog, Level.info⟩] := rfl

/-- The log of the arguments is not the one of the environment, so it is opened. -/
lemma twoLogs_own {log : Path} {d : Disk}
    (h : Audit.Gets twoLogsStarted
      [console, ⟨.file "/env/utgen-audit.log".toText envLog, Level.info⟩] ownDir Level.info d
      (some log) own) :
    ∃ path, own = [⟨.file path ownLog, Level.info⟩] := by
  obtain ⟨hhere, hstraight, hcanonical⟩ := twoLogsStarted_straight
  cases h with
  | @there _ p hp hplace =>
      obtain rfl : p = "/env/utgen-audit.log".toText := by
        simpa [console, Handler.path?] using hp
      have heq := Except.ok.inj (hcanonical.symm.trans hplace)
      exact absurd heq (by decide)
  | @opened _ place hopens =>
      have hplace := hopens.place_eq twoLogsStarted_isTree hhere hstraight
      exact ⟨_, by rw [hplace]; rfl⟩

/-- The log of the environment has all of this run, and that of the arguments all
but the start. -/
theorem program_trail_twoLogs :
    let run := runOn program twoLogs
    ∃ rs, run.2.records = twoLogs.startRecord :: rs ∧
      run.2.disk.content envLog = Utf8.encode (lines twoLogs.stamp 1 (twoLogs.startRecord :: rs)) ∧
      run.2.disk.content ownLog = Utf8.encode (lines twoLogs.stamp 1 rs) := by
  obtain ⟨found, own, rs, -, hfound, hgets, hfiles, -, hrecords, hcontent⟩ :=
    program_trail twoLogs_begins oneModule_isPlain.isTree rfl twoLogs_parse twoLogs_setUp
      twoLogs_setUpJournal twoLogsArguments_ownDir twoLogs_attach
  obtain rfl : found = [⟨.file "/env/utgen-audit.log".toText envLog, Level.info⟩] := by
    rw [twoLogsFound_handlers] at hfound
    exact (List.cons.inj hfound).2.symm
  obtain ⟨path, rfl⟩ := twoLogs_own hgets
  obtain ⟨hstart, hall⟩ := twoLogs_kept hrecords
  have hskips : ∀ l, ¬(Writes (runOn (generateFor twoLogsArguments) twoLogsAttached).1 ∧
      (runOn program twoLogs).2.HasTestAt twoLogsArguments.path l) :=
    fun l h => twoLogs_not_writes h.1
  have hne : envLog ≠ ownLog := by
    decide
  have hempty : twoLogs.disk.content envLog = [] ∧ twoLogs.disk.content ownLog = [] :=
    ⟨rfl, rfl⟩
  refine ⟨rs, hrecords, ?_, ?_⟩
  · obtain ⟨_, _, bs, hsink, hl⟩ := hfiles _ (List.mem_append_left _ List.mem_cons_self)
    rw [← (Sink.file.inj hsink).2] at hl
    rw [(hcontent _ bs hl).resolve_left (hskips _), hempty.1, hstart, hall]
    simp [writers, Sink.standsAt, hne.symm, lines]
  · obtain ⟨_, _, bs, hsink, hl⟩ := hfiles _ (List.mem_append_right _ List.mem_cons_self)
    rw [← (Sink.file.inj hsink).2] at hl
    rw [(hcontent _ bs hl).resolve_left (hskips _), hempty.2, hstart, hall]
    simp [writers, Sink.standsAt, hne, lines]

end TestScaffold.CommandLine
