import TestScaffold.Proofs.Audit.Twins
import TestScaffold.Proofs.CommandLine.Options
import TestScaffold.Proofs.CommandLine.Stages
import TestScaffold.Proofs.Generator.Indifferent

/-!
Two runs from one session, with command lines that differ in the options of the
journal.

* Setting up the journal in one way or the other leaves twins (`setUpJournal_alike`):
  a log may be new and levels may differ, and nothing else does.
* What comes after it ends alike in twins (`generateFor_alike`), so the runs of the
  bodies do (`body_alike`).
* `program_indifferent`: **the options of the journal do not influence results.**
-/

namespace TestScaffold.CommandLine

open TestScaffold.Action
open Audit (mainLogger fileName)

variable {a a' : Arguments} {dialect : Dialect} {args args' : List Text} {s s' s₁ : Session}
  {name : Text}

/-! ### The journal -/

/-- The log that is asked for is attached. -/
def openOwn (a : Arguments) : Action Unit :=
  match a.ownDir? with
  | some dir => discard (Audit.attach mainLogger dir Level.info)
  | none => pure ()

/-- The levels of a run that is to be verbose. -/
def lower (verbose : Bool) : Action Unit :=
  if verbose then Audit.setLevel mainLogger Level.debug else pure ()

lemma setUpJournal_eq_bind (a : Arguments) :
    setUpJournal a = openOwn a >>= fun _ => lower a.verbose :=
  setUpJournal_eq a

/-- The directory that is asked for. -/
lemma ownDir?_eq_some {dir : Path} (h : a.ownDir? = some dir) :
    ∃ path, a.logDir = some path ∧ path ≠ [] ∧ dir = Path.ofText path := by
  rw [Arguments.ownDir?] at h
  split at h
  · next c cs hdir => exact ⟨c :: cs, hdir, by simp, (Option.some.inj h).symm⟩
  · cases h

lemma openOwn_tidies (a : Arguments) : Tidies (openOwn a) := by
  rw [openOwn]
  split
  · next dir hdir =>
      obtain ⟨path, -, -, rfl⟩ := ownDir?_eq_some hdir
      exact (Audit.attach_tidies _ _ (Path.parts_ofText path)).discard
  · exact .pure _

lemma setUpJournal_tidies (a : Arguments) : Tidies (setUpJournal a) := by
  rw [setUpJournal_eq_bind]
  exact (openOwn_tidies a).bind fun _ _ => .ite (Audit.setLevel_tidies _ _) (.pure _)

/-- Whether the levels are lowered does not matter. -/
lemma lower_alike (verbose verbose' : Bool) (hs : s.Twins true s') :
    Alike true (runOn (lower verbose) s) (runOn (lower verbose') s') := by
  have hone : ∀ (v : Bool) (t : Session), t.Tidy →
      (runOn (lower v) t).1 = .ok () ∧ t.Twins true (runOn (lower v) t).2 := by
    intro v t ht
    cases v with
    | true => exact ⟨rfl, Audit.twins_setLevel ht _ _⟩
    | false => exact ⟨rfl, .refl _ ht⟩
  obtain ⟨hok, htwins⟩ := hone verbose s hs.tidy
  obtain ⟨hok', htwins'⟩ := hone verbose' s' hs.tidy'
  exact ⟨hok'.trans hok.symm, (htwins.symm.trans hs).trans htwins'⟩

/-- A log for which nothing has to be made makes a twin. -/
lemma openOwn_of_hasLogDir (hs : s.Tidy) (hhere : s.herePath.isPath)
    (hdir : HasLogDir s.disk s.here a.logDir) :
    (runOn (openOwn a) s).1 = .ok () ∧ s.Twins true (runOn (openOwn a) s).2 := by
  rw [openOwn]
  split
  · next dir hown =>
      obtain ⟨path, hpath, hne, rfl⟩ := ownDir?_eq_some hown
      have hisDir := (hdir path hpath).resolve_left hne
      obtain ⟨x, hx, htwins⟩ := Audit.attach_of_isDir hs hhere hisDir mainLogger Level.info
      rw [runOn_discard_snd]
      refine ⟨?_, htwins⟩
      have hrun := (runOn_discard_eq_ok (u := ())).mpr ⟨x, Prod.ext hx rfl⟩
      rw [hrun]
  · exact ⟨rfl, .refl _ hs⟩

/-- The same log makes twins of twins, and so do logs for which nothing has to be
made. -/
lemma openOwn_alike (hs : s.Twins false s') (hhere : s.herePath.isPath)
    (hdirs : LogDirs s.disk s.here a.logDir a'.logDir) :
    Alike true (runOn (openOwn a) s) (runOn (openOwn a') s') := by
  rcases hdirs with hsame | ⟨hdir, hdir'⟩
  · have hown : openOwn a' = openOwn a := by
      rw [openOwn, openOwn, Arguments.ownDir?, Arguments.ownDir?, hsame]
    rw [hown, openOwn]
    split
    · next dir hown =>
        obtain ⟨path, -, -, rfl⟩ := ownDir?_eq_some hown
        have hattach := (Audit.attach_indifferent mainLogger Level.info
          (Path.parts_ofText path)).discard s s' hs
        exact ⟨hattach.same, hattach.twins.loosen⟩
    · exact ⟨rfl, hs.loosen⟩
  · have hdir'' : HasLogDir s'.disk s'.here a'.logDir := by
      intro path hpath
      refine (hdir' path hpath).imp_right fun hisDir => ?_
      rwa [hs.here, hs.disk.isDir hs.tidy.plain hs.plain' (by simp [Disk.Avoids])]
    have hhere' : s'.herePath.isPath := by
      rwa [Session.herePath, hs.here]
    obtain ⟨hok, htwins⟩ := openOwn_of_hasLogDir hs.tidy hhere hdir
    obtain ⟨hok', htwins'⟩ := openOwn_of_hasLogDir hs.tidy' hhere' hdir''
    exact ⟨hok'.trans hok.symm, (htwins.symm.trans hs.loosen).trans htwins'⟩

/-- **The journal in one way or the other.** -/
theorem setUpJournal_alike (hs : s.Twins false s') (hhere : s.herePath.isPath)
    (hdirs : LogDirs s.disk s.here a.logDir a'.logDir) :
    Alike true (runOn (setUpJournal a) s) (runOn (setUpJournal a') s') := by
  rw [setUpJournal_eq_bind, setUpJournal_eq_bind]
  exact (openOwn_alike hs hhere hdirs).bind fun _ _ _ _ ht => lower_alike _ _ ht

/-! ### What is made -/

/-- Neither the source of a run nor its settings nor the place of its test are a log or
below one. -/
structure Arguments.PassesNoLog (a : Arguments) (s : Session) : Prop where
  source : fileName ∉ Disk.steps a.path
  settings : fileName ∉ Disk.steps (Generator.settingsPath a.config s)
  test : ∀ dir name, Layout.testPlace a.path = .ok (dir, name) →
    fileName ∉ Disk.steps (Path.joinTo dir name)

lemma Arguments.PassesNoLog.of_settingsVar (h : a.PassesNoLog s)
    (hvar : s'.settingsVar = s.settingsVar) : a.PassesNoLog s' := by
  refine { h with settings := ?_ }
  have hsame : Generator.settingsPath a.config s' = Generator.settingsPath a.config s := by
    unfold Generator.settingsPath
    rw [hvar]
  rw [hsame]
  exact h.settings

lemma generateFor_alike (hs : s.Twins true s') (hsame : a.SameTask a') (hpaths : a.PassesNoLog s) :
    Alike true (runOn (generateFor a) s) (runOn (generateFor a') s') := by
  have htask : generateFor a' = generateFor a := by
    rw [generateFor, generateFor, hsame.config, hsame.dryRun, hsame.annotationName, hsame.path]
  rw [htask, generateFor]
  refine (Generator.loadSettings_alike a.config hs hpaths.settings).bind
    fun settings t t' _ ht => ?_
  exact Generator.generate_indifferent settings a.dryRun a.annotationName hpaths.source hpaths.test
    t t' ht

/-! ### The body -/

lemma runArguments_alike (hs : s.Twins false s') (hhere : s.herePath.isPath)
    (hsame : a.SameTask a') (hdirs : LogDirs s.disk s.here a.logDir a'.logDir)
    (hpaths : a.PassesNoLog s) :
    Alike true (runOn (runArguments a) s) (runOn (runArguments a') s') := by
  refine (setUpJournal_alike hs hhere hdirs).bind fun _ t t' hrun ht => ?_
  have hvar : t.settingsVar = s.settingsVar := by
    obtain ⟨-, d, j, -, hleft⟩ := setUpJournal_tidies a s hs.tidy
    rw [hrun] at hleft
    obtain rfl : t = { s with disk := d, journal := j } := hleft
    rfl
  refine (generateFor_alike ht hsame (hpaths.of_settingsVar hvar)).attempt.bind
    fun made t₂ t₂' _ ht₂ => ?_
  -- from here on both go on with one action, which says what there is to say
  cases made with
  | ok g =>
      obtain ⟨- | path, content, sigs⟩ := g
      · exact Indifferent.print _ t₂ t₂' ht₂
      · exact Indifferent.print _ t₂ t₂' ht₂
  | error f =>
      cases f with
      | scaffold e =>
          have hsays : Indifferent true (do
              log mainLogger Level.info (failedMessage e)
              complain ("Error: ".toText ++ e.message ++ [char '\n'])
              throw (.exit (.number 1)) : Action Unit) :=
            (Indifferent.log _ _ _).bind fun _ _ =>
              (Indifferent.complain _).bind fun _ _ => .throw _
          exact hsays t₂ t₂' ht₂
      | _ => exact Indifferent.throw _ t₂ t₂' ht₂

/-- **Two bodies whose command lines agree end alike in twins.** -/
theorem body_alike (hs : s.Twins false s') (hhere : s.herePath.isPath)
    (hdialect : s.host.dialect = dialect)
    (hagrees : Agrees (LogDirs s.disk s.here) (Request.parse dialect args)
      (Request.parse dialect args'))
    (hpaths : ∀ a, Request.parse dialect args = .ok (.run a) → a.PassesNoLog s) :
    Alike true (runOn (body args) s) (runOn (body args') s') := by
  rw [body, body, runOn_host_bind, runOn_host_bind, hs.host, hdialect]
  generalize Request.parse dialect args = answer at hagrees hpaths
  generalize Request.parse dialect args' = answer' at hagrees
  cases hagrees with
  | refused f => exact ((Indifferent.complain _).bind fun _ _ => .throw _) s s' hs.loosen
  | help => exact ((Indifferent.print _).bind fun _ _ => .throw _) s s' hs.loosen
  | @run a a' hsame hdirs =>
      exact (runArguments_alike hs hhere hsame hdirs (hpaths a rfl)).bind fun _ t t' _ ht =>
        Indifferent.pure _ t t' ht

/-! ### The run -/

lemma runOn_watch_of_error {e : Failure} {m : Action ℤ}
    (hsetUp : runOn (Audit.setUp mainLogger [] Level.info) s = (.error e, s₁)) :
    runOn (watch .number m) s = (.error e, s₁) :=
  runOn_bind_of_error (runOn_discard_eq_error.mpr hsetUp) _

/-- Other arguments make a twin. -/
lemma twins_relabel (hs : s.Tidy) (arguments : List Text) (rs : List Record) :
    s.Twins false (s.relabel arguments rs) :=
  ⟨rfl, rfl, rfl, rfl, .refl _ _ _, fun _ => rfl, hs,
    ⟨⟨hs.isPlain.1, hs.isPlain.2, hs.isPlain.3⟩, hs.logs⟩⟩

/-- What is recorded about one outcome. -/
lemma recordOutcome_twins (hs : s.Twins true s') (outcome : Except Failure ℤ) :
    (s.recordOutcome outcome).Twins true (s'.recordOutcome outcome) := by
  cases outcome with
  | ok n => exact hs
  | error f =>
      rw [Session.recordOutcome, Session.recordOutcome]
      split
      · exact hs.log _ _
      · exact hs

/-- What there was before the body of a run is there when it begins. -/
structure Leads (s t : Session) : Prop where
  host : t.host = s.host
  here : t.here = s.here
  settingsVar : t.settingsVar = s.settingsVar
  grows : s.disk.Grows t.disk

/-- Watched runs with different arguments end alike if their bodies do. -/
lemma watch_alike {m m' : Action ℤ} (hs : s.Tidy) (arguments : List Text)
    (hbody : ∀ t t', Leads s t → t.Twins false t' → Alike true (runOn m t) (runOn m' t')) :
    Alike true (runOn (watch .number m) s)
      (runOn (watch .number m') (s.relabel arguments s.records)) := by
  have hignores := Audit.setUp_ignores [] Level.info s arguments s.records
  obtain ⟨htidy, d, j, hadds, hleft⟩ := Audit.setUp_tidies Level.info s hs
  rcases hsetUp : runOn (Audit.setUp mainLogger [] Level.info) s with ⟨e | name, s₁⟩
  · rw [hsetUp] at hignores htidy
    rw [runOn_watch_of_error hsetUp, runOn_watch_of_error hignores]
    exact ⟨rfl, (twins_relabel htidy _ _).loosen⟩
  rw [hsetUp] at hignores htidy hleft
  obtain rfl : s₁ = { s with disk := d, journal := j } := hleft
  set s₁ : Session := { s with disk := d, journal := j }
  set s₁' := s₁.relabel arguments s.records
  have hstart : (s₁.log s₁.startRecord).Twins false (s₁'.log s₁'.startRecord) :=
    (twins_relabel htidy _ _).log _ _
  have hleads : Leads s (s₁.log s₁.startRecord) := by
    have htold := Session.twins_log htidy s₁.startRecord
    refine ⟨htold.host, htold.here, htold.settingsVar, hadds.grows.trans ?_⟩
    exact (Session.OnlyTold.log s₁ _).disk.grows
  rcases hrun : runOn m (s₁.log s₁.startRecord) with ⟨outcome, s₂⟩
  rcases hrun' : runOn m' (s₁'.log s₁'.startRecord) with ⟨outcome', s₂'⟩
  have halike := hbody _ _ hleads hstart
  rw [hrun, hrun'] at halike
  obtain rfl : outcome' = outcome := halike.same
  have hend := recordOutcome_twins halike.twins outcome'
  rw [runOn_watch_eq .number hsetUp hrun, runOn_watch_eq .number hignores hrun']
  split
  · exact ⟨rfl, hend.log _ _⟩
  · exact ⟨rfl, hend⟩

/-- **The options of the journal do not influence results**, on every disk without
links. From one session two runs start, whose command lines differ in the options of
the journal at most, where the logs are in directories that are there or the same for
both; so it is where such options stand in front of one of them
(`parse_agrees_append`). If no log is on the paths of the source, of the settings and
of the test, then both have the same exit status or end with the same failure, they
print the same, and they leave the same directories and the same files, but for the
logs. -/
theorem program_indifferent (hs : s.Tidy) (hhere : s.herePath.isPath) (arguments : List Text)
    (hagrees : Agrees (LogDirs s.disk s.here)
      (Request.parse s.host.dialect (s.arguments.drop 1))
      (Request.parse s.host.dialect (arguments.drop 1)))
    (hpaths : ∀ a, Request.parse s.host.dialect (s.arguments.drop 1) = .ok (.run a) →
      a.PassesNoLog s) :
    let run := runOn program s
    let run' := runOn program { s with arguments := arguments }
    run'.1 = run.1 ∧ run'.2.stdout = run.2.stdout ∧
      (∀ l, l.head? ≠ some fileName → run'.2.disk.get? l = run.2.disk.get? l) ∧
      ∀ l, run'.2.disk.get? l = some .dir ↔ run.2.disk.get? l = some .dir := by
  intro run run'
  have halike : Alike true run run' := by
    have hwatch : ∀ t : Session, runOn program t =
        runOn (watch .number (body (t.arguments.drop 1))) t := fun t => by
      rw [program, runOn_get_bind]
    rw [show run = _ from hwatch s, show run' = _ from hwatch _]
    refine watch_alike hs arguments fun t t' ht htwins => ?_
    have hhere' : t.herePath.isPath := by
      rwa [Session.herePath, ht.here]
    refine body_alike htwins hhere' (congrArg _ ht.host) ?_ fun a ha =>
      (hpaths a ha).of_settingsVar ht.settingsVar
    rw [ht.here]
    exact hagrees.mono fun o o' => LogDirs.of_grows ht.grows
  obtain ⟨hsame, htwins⟩ := halike
  exact ⟨hsame, htwins.stdout, htwins.disk.same, htwins.disk.dirs⟩

/-- The options of a run that is to be verbose, and to have its log in the directory of
`oneModule`. -/
def loud : List Text := ["--verbose".toText, "--log-dir".toText, ".".toText]

/-- The arguments for the source of `oneModule`. -/
def oneTask : List Text := ["Gen".toText, "src/main/kotlin/A.kt".toText]

/-- A run on `oneModule` without these options. -/
def quietRun : Session := { Generator.oneModule with arguments := programName :: oneTask }

lemma quietRun_tidy : quietRun.Tidy := by
  have hplain := Generator.oneModule_isPlain
  refine ⟨⟨hplain.linkFree, hplain.isTree, hplain.here⟩, fun l hl => ?_⟩
  exact absurd hl (Journal.not_writesTo_start rfl Generator.loggers l)

lemma quietRun_passesNoLog :
    ∀ a, Request.parse quietRun.host.dialect oneTask = .ok (.run a) → a.PassesNoLog quietRun := by
  intro a ha
  have hparse : Request.parse quietRun.host.dialect oneTask =
      .ok (.run ⟨"Gen".toText, "src/main/kotlin/A.kt".toText, none, false, none, false⟩) := by
    decide +kernel
  have hplace : Layout.testPlace "src/main/kotlin/A.kt".toText =
      .ok ("src/test/kotlin/".toText, "ATest.kt".toText) := by
    decide +kernel
  obtain rfl := Request.run.inj (Except.ok.inj (hparse.symm.trans ha))
  refine ⟨by decide, by decide, fun dir name htest => ?_⟩
  obtain ⟨rfl, rfl⟩ := Prod.mk.inj (Except.ok.inj (hplace.symm.trans htest))
  decide

/-- The run with these options comes to the same, for example. -/
theorem program_indifferent_oneModule :
    let run := runOn program quietRun
    let run' := runOn program { quietRun with arguments := programName :: (loud ++ oneTask) }
    quietRun.Tidy ∧ quietRun.herePath.isPath ∧
      Agrees (LogDirs quietRun.disk quietRun.here)
        (Request.parse quietRun.host.dialect oneTask)
        (Request.parse quietRun.host.dialect (loud ++ oneTask)) ∧
      (∀ a, Request.parse quietRun.host.dialect oneTask = .ok (.run a) →
        a.PassesNoLog quietRun) ∧
      run'.1 = run.1 ∧ run'.2.stdout = run.2.stdout ∧
      (∀ l, l.head? ≠ some fileName → run'.2.disk.get? l = run.2.disk.get? l) ∧
      ∀ l, run'.2.disk.get? l = some .dir ↔ run.2.disk.get? l = some .dir := by
  have hloud : JournalOptions quietRun.disk quietRun.here loud :=
    .verbose (.inl rfl) (.logDir (by decide +kernel) (by decide) .nil)
  have hagrees : Agrees (LogDirs quietRun.disk quietRun.here)
      (Request.parse quietRun.host.dialect oneTask)
      (Request.parse quietRun.host.dialect (loud ++ oneTask)) :=
    parse_agrees_append hloud oneTask
  have hhere : quietRun.herePath.isPath := by
    decide
  exact ⟨quietRun_tidy, hhere, hagrees, quietRun_passesNoLog,
    program_indifferent quietRun_tidy hhere (programName :: (loud ++ oneTask)) hagrees
      quietRun_passesNoLog⟩

end TestScaffold.CommandLine
