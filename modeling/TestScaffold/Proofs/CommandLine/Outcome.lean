import TestScaffold.Proofs.CommandLine.Stages

/-!
The outcome of a run of the program.

* `told` is what a run has made, if the console takes what is to be shown of it.
* `runOn_program` is the run as one equation: the start, the journal, what is
  made (`generateFor`), and what is said about it.
* `program_course` has all records of the run: those that come before something is
  said about the outcome, which are routine, and those after it.
* `program_outcome`: **the exit status of a run, and what it writes to both
  outputs.** A run that makes what it was asked for shows it and has status 0; a
  run that is refused says why and has status 1. The other outcomes are failures that
  are not caught: that of the missing directories, and those of a text that the test or
  the console cannot take.
-/

namespace TestScaffold

/-- How many logs the records of a run come to. -/
def Session.logCount (s : Session) : ℕ :=
  (s.journal.logger Audit.mainLogger).handlers.countP (·.sink.isFile)

/-- Where the test is opened does not depend on the content of files. -/
lemma Session.HasTestAt.of_onlyTold {s s' : Session} {path : Text} {l : Location}
    (h : s.HasTestAt path l) (ht : s.OnlyTold s') : s'.HasTestAt path l := by
  obtain ⟨dir, name, n, hplace, hres⟩ := h
  obtain ⟨n', -, -, hres'⟩ := ht.disk.resolve_found hres
  exact ⟨dir, name, n', hplace, ht.here ▸ hres'⟩

namespace CommandLine

open TestScaffold.Action TestScaffold.Generator

/-! ### What is said about the outcome -/

/-- What a run shows of what it has made. -/
def display : Generated → Text
  | ⟨none, content, _⟩ => content
  | ⟨some path, _, _⟩ => "Test file created at: ".toText ++ path ++ [char '\n']

/-- What a run has made, if the console takes what is to be shown of it. -/
def told (console : Encoding) : Except Failure Generated → Except Failure Generated
  | .ok g =>
    match console.refusal? (display g) with
    | none => .ok g
    | some what => .error (.unencodable what)
  | .error f => .error f

/-- What is shown in the end. -/
def displayed : Except Failure Generated → Text
  | .ok g => display g
  | .error _ => []

/-- The line that says why a run is refused. -/
def errorLine (e : ScaffoldError) : Text := "Error: ".toText ++ e.message ++ [char '\n']

/-- What is said about a failure. -/
def complaint : Except Failure Generated → Text
  | .error (.scaffold e) => errorLine e
  | _ => []

/-- The records of a failure that is not caught. -/
def faults : Except Failure Generated → List Record
  | .error (.scaffold _) => []
  | .error f => if f.isError then [f.record] else []
  | .ok _ => []

/-- What a run ends with. -/
def ending : Except Failure Generated → Except Failure Int
  | .ok _ => .ok 0
  | .error (.scaffold _) => .error (.exit (.number 1))
  | .error f => .error f

lemma told_eq_ok_iff {console : Encoding} {made : Except Failure Generated} {g : Generated} :
    told console made = .ok g ↔ made = .ok g ∧ console.refusal? (display g) = none := by
  cases made with
  | error f => simp [told]
  | ok g' =>
      rw [told]
      split
      · next hfree =>
          rw [Except.ok.injEq]
          exact ⟨fun h => ⟨h, h ▸ hfree⟩, And.left⟩
      · next what hwhat =>
          refine ⟨by simp, fun h => ?_⟩
          obtain ⟨hsame, hfree⟩ := h
          rw [Except.ok.inj hsame, hfree] at hwhat
          cases hwhat

/-- A failure is told as it is, or it is that of the console. -/
lemma of_told_eq_error {console : Encoding} {made : Except Failure Generated} {f : Failure}
    (h : told console made = .error f) :
    made = .error f ∨ ∃ g what, made = .ok g ∧ console.refusal? (display g) = some what ∧
      f = .unencodable what := by
  cases made with
  | error f' => exact .inl h
  | ok g =>
      rw [told] at h
      split at h
      · cases h
      · next what hwhat => exact .inr ⟨g, what, rfl, hwhat, (Except.error.inj h).symm⟩

/-- Any other failure than an error of the generator is passed on. -/
lemma of_uncaught {f : Failure} (hf : ∀ e, f ≠ .scaffold e) :
    complaint (.error f) = [] ∧ faults (.error f) = (if f.isError then [f.record] else []) ∧
      ending (.error f) = .error f := by
  cases f with
  | scaffold e => exact absurd rfl (hf e)
  | _ => exact ⟨rfl, rfl, rfl⟩

/-- No number that a run ends with has too many digits. -/
lemma exitIsWritable_ending {made : Except Failure Generated}
    (hmade : ∀ f, made = .error f → f.isError = true) :
    exitIsWritable ((ending made).map .number) = true := by
  rcases made with f | g
  · have hf := hmade f rfl
    cases f with
    | scaffold e => exact (by decide : Status.isWritable (.number 1) = true)
    | exit status => cases hf
    | _ => rfl
  · exact (by decide : Status.isWritable (.number 0) = true)

/-- The session after an error of the generator has been recorded. -/
def recordRefusal (s : Session) : Except Failure Generated → Session
  | .error (.scaffold e) => s.log ⟨Audit.mainLogger, Level.info, failedMessage e⟩
  | _ => s

/-- The session after all has been said about the outcome. -/
def say (s : Session) (made : Except Failure Generated) : Session :=
  { s with stdout := s.stdout ++ displayed made, stderr := s.stderr ++ complaint made }

variable {a : Arguments} {args : List Text} {s s₁ s₂ s₃ : Session} {name : Text}
  {made : Except Failure Generated}

lemma say_of_silent (s : Session) (hshown : displayed made = []) (hsaid : complaint made = []) :
    say s made = s := by
  rw [say, hshown, hsaid, List.append_nil, List.append_nil]

/-- The result is printed, unless the console refuses it. -/
lemma runOn_print_display (s : Session) (g : Generated) :
    runOn (print (display g)) s =
      ((ending (told s.host.console (.ok g))).map fun _ => (),
        say s (told s.host.console (.ok g))) := by
  cases h : s.host.console.refusal? (display g) with
  | none =>
      have htold : told s.host.console (.ok g) = .ok g := told_eq_ok_iff.mpr ⟨rfl, h⟩
      have hsilent : complaint (.ok g) = [] := rfl
      rw [runOn_print_of_ok h, htold, say, hsilent, List.append_nil]
      rfl
  | some what =>
      have htold : told s.host.console (.ok g) = .error (.unencodable what) := by
        rw [told, h]
      rw [runOn_print_of_refused h, htold, say_of_silent s rfl rfl]
      rfl

lemma runOn_body (hparse : Request.parse s.host.dialect args = .ok (.run a))
    (hjournal : runOn (setUpJournal a) s = (.ok (), s₂))
    (hmade : runOn (generateFor a) s₂ = (made, s₃)) :
    runOn (body args) s = (ending (told s₃.host.console made),
      say (recordRefusal s₃ made) (told s₃.host.console made)) := by
  have hattempt : runOn (attempt (generateFor a)) s₂ = (.ok made, s₃) := by
    rw [runOn_attempt, hmade]
  have hrun : runOn (runArguments a) s =
      ((ending (told s₃.host.console made)).map fun _ => (),
        say (recordRefusal s₃ made) (told s₃.host.console made)) := by
    rw [runArguments, runOn_bind_of_ok hjournal, runOn_bind_of_ok hattempt]
    rcases made with f | g
    · cases f with
      | scaffold e =>
          dsimp only [told, recordRefusal, say, displayed, complaint, errorLine]
          rw [runOn_log_bind, List.append_nil]
          rfl
      | _ =>
          dsimp only [told, recordRefusal]
          rw [say_of_silent s₃ rfl rfl]
          rfl
    · have hsame : recordRefusal s₃ (.ok g) = s₃ := rfl
      rw [hsame, ← runOn_print_display]
      obtain ⟨- | path, content, sigs⟩ := g <;> rfl
  rw [body, runOn_host_bind, hparse]
  dsimp only
  rw [runOn_bind, hrun]
  rcases told s₃.host.console made with f | g
  · cases f <;> rfl
  · rfl

lemma runOn_program {r : Except Failure ℤ} {s' : Session}
    (hparse : Request.parse s.host.dialect (s.arguments.drop 1) = .ok (.run a))
    (hsetUp : runOn (Audit.setUp Audit.mainLogger [] Level.info) s = (.ok name, s₁))
    (hhost : s₁.host = s.host)
    (hjournal : runOn (setUpJournal a) (s₁.log s₁.startRecord) = (.ok (), s₂))
    (hmade : runOn (generateFor a) s₂ = (made, s₃)) (h : runOn program s = (r, s')) :
    let made' := told s₃.host.console made
    r = ending made' ∧
      ∃ s₄, s₄ = (say (recordRefusal s₃ made) made').recordOutcome (ending made') ∧
        s' = s₄.log (s₄.endRecord (exitValue ((ending made').map .number))) := by
  intro made'
  rw [program, runOn_get_bind] at h
  dsimp only at h
  have herror : ∀ f, made' = .error f → f.isError = true := by
    intro f hf
    rcases of_told_eq_error hf with hf | ⟨-, what, -, -, rfl⟩
    · exact generateFor_isError (by rw [hmade, hf])
    · rfl
  have hparse' : Request.parse (s₁.log s₁.startRecord).host.dialect (s.arguments.drop 1) =
      .ok (.run a) := by
    rw [(Session.OnlyTold.log s₁ _).host, hhost, hparse]
  rw [runOn_watch .number hsetUp (runOn_body hparse' hjournal hmade)
    (exitIsWritable_ending herror)] at h
  obtain ⟨rfl, rfl⟩ := Prod.mk.inj h
  exact ⟨rfl, _, rfl, rfl⟩

/-! ### All records of a run -/

variable {hs : List Handler} {W : Location → Prop}

/-- A refusal has a routine record of its own. -/
lemma recordRefusal_told (ht : s.journal.Tuned a.level hs) (made : Except Failure Generated) :
    ∃ rs : List Record, (∀ r ∈ rs, r.IsRoutine a.level) ∧
      s.Heard a.level hs W rs (recordRefusal s made) := by
  cases made with
  | ok g => exact ⟨[], by simp, .refl _ ht⟩
  | error f =>
      cases f with
      | scaffold e => exact Session.Heard.log _ ht mem_loggers.1 Level.info_pos le_rfl
      | _ => exact ⟨[], by simp, .refl _ ht⟩

lemma onlyTold_recordRefusal (s : Session) (made : Except Failure Generated) :
    s.OnlyTold (recordRefusal s made) := by
  unfold recordRefusal
  split
  · exact .log s _
  · exact .refl s

lemma stdout_recordRefusal (s : Session) (made : Except Failure Generated) :
    (recordRefusal s made).stdout = s.stdout := by
  unfold recordRefusal
  split
  · exact s.stdout_log _
  · rfl

lemma onlyTold_recordOutcome (s : Session) (r : Except Failure ℤ) :
    s.OnlyTold (s.recordOutcome r) := by
  unfold Session.recordOutcome
  split
  · exact .refl s
  · split
    · exact .log s _
    · exact .refl s

lemma stdout_recordOutcome (s : Session) (r : Except Failure ℤ) :
    (s.recordOutcome r).stdout = s.stdout := by
  unfold Session.recordOutcome
  split
  · rfl
  · split
    · exact s.stdout_log _
    · rfl

/-- A failure that is not caught is recorded. -/
lemma faults_told (ht : s.journal.Tuned a.level hs) (made : Except Failure Generated) :
    s.Heard a.level hs W (faults made) (s.recordOutcome (ending made)) := by
  have hrecord : ∀ f : Failure, s.Heard a.level hs W (if f.isError then [f.record] else [])
      (s.recordOutcome (.error f : Except Failure ℤ)) := by
    intro f
    rw [Session.recordOutcome]
    split
    · exact .log_of_le ht mem_loggers.1
        (a.level_le_info.trans (by decide : Level.info ≤ Level.error))
    · exact .refl _ ht
  rcases made with f | g
  · by_cases hf : ∃ e, f = .scaffold e
    · obtain ⟨e, rfl⟩ := hf
      exact .refl _ ht
    · obtain ⟨-, hfaults, hending⟩ := of_uncaught (not_exists.mp hf)
      rw [hfaults, hending]
      exact hrecord f
  · exact .refl _ ht

/-- The course of a run. The set-up finds some logs, the start is recorded, and
the journal gets the log that is asked for; then settings and generator make
their routine records, and what they say is followed by the faults and the end. -/
structure Course (a : Arguments) (made : Except Failure Generated) (W : Location → Prop)
    (s s₁ s₂ s₃ : Session) (logs own : List Handler) (rs : List Record) (s' : Session) :
    Prop where
  setUp : s.Readied Level.info (console :: logs) s₁
  start : s₁.Heard Level.info (console :: logs) (fun _ => False) [s.startRecord]
    (s₁.log s₁.startRecord)
  journal : (s₁.log s₁.startRecord).Readied a.level (a.handlers (console :: (logs ++ own))) s₂
  main : s₂.Heard a.level (a.handlers (console :: (logs ++ own))) W rs s₃
  finish : (say s₃ made).Heard a.level (a.handlers (console :: (logs ++ own))) (fun _ => False)
    (faults made ++ [s.endRecord (exitValue ((ending made).map .number))]) s'
  routine : ∀ r ∈ rs, r.IsRoutine a.level
  infos : ∀ x ∈ logs ++ own, x.level = Level.info ∧ x.sink.isFile
  found : logs.length ≤ 1 ∧ (s.disk.IsTree → s.disk.get? s.here = some .dir →
    ∀ x ∈ logs, s₁.HasFile x)
  asked : ∀ dir, a.ownDir? = some dir → ∃ x t,
    runOn (Audit.attach Audit.mainLogger dir Level.info) (s₁.log s₁.startRecord) = (.ok x, t) ∧
      Audit.Gets (s₁.log s₁.startRecord) (console :: logs) dir Level.info s₂.disk x own

/-- **Every run that gets as far as its journal takes this course.** The only file that
it may write over is that of its test. -/
theorem program_course {r : Except Failure ℤ} {s' : Session} (hb : s.Begins)
    (hparse : Request.parse s.host.dialect (s.arguments.drop 1) = .ok (.run a))
    (hsetUp : runOn (Audit.setUp Audit.mainLogger [] Level.info) s = (.ok name, s₁))
    (hjournal : runOn (setUpJournal a) (s₁.log s₁.startRecord) = (.ok (), s₂))
    (hmade : runOn (generateFor a) s₂ = (made, s₃)) (h : runOn program s = (r, s')) :
    let made' := told s.host.console made
    r = ending made' ∧ s'.stdout = s₃.stdout ++ displayed made' ∧ s₂.stdout = s.stdout ∧
      ∃ logs own rs W s₄, Course a made' W s s₁ s₂ s₄ logs own rs s' ∧
        ∀ l, W l → Writes made ∧ (s₂.disk.IsTree → s'.HasTestAt a.path l) := by
  -- the set-up and the start, the log of the arguments, and what is made: each stage hands its
  -- journal on to the next one
  obtain ⟨logs, hready₁, hlength, hlogs, hfiles⟩ := Audit.setUp_readies hb hsetUp
  have hhost₁ : s₁.host = s.host := by rw [hready₁.rest]
  have hstart : s₁.startRecord = s.startRecord := by
    rw [hready₁.rest]
    rfl
  have hstarted : s₁.Heard Level.info (console :: logs) (fun _ => False) [s.startRecord]
      (s₁.log s₁.startRecord) := by
    rw [← hstart]
    exact .log_of_le hready₁.tuned mem_loggers.1 le_rfl
  obtain ⟨own, hready₂, hown, hasked⟩ := setUpJournal_readies hstarted.tuned hjournal
  obtain ⟨rs, W, hrs, htold, hplaces⟩ := generateFor_told hready₂.tuned hmade
  have hhost₃ : s₃.host = s.host := by
    calc s₃.host = s₂.host := htold.host
      _ = (s₁.log s₁.startRecord).host := by rw [hready₂.rest]
      _ = s.host := hstarted.host.trans hhost₁
  have hprogram := runOn_program hparse hsetUp hhost₁ hjournal hmade h
  rw [hhost₃] at hprogram
  intro made'
  obtain ⟨rfl, s₅, hs₅, rfl⟩ := hprogram
  obtain ⟨rs', hrs', htold'⟩ := recordRefusal_told (W := W) htold.tuned made
  -- what is said is no record, so the journal is still that of the run
  have htuned : (say (recordRefusal s₃ made) made').journal.Tuned a.level
      (a.handlers (console :: logs ++ own)) := htold'.tuned
  have hfaults := faults_told (W := fun _ => False) htuned made'
  rw [← hs₅] at hfaults
  have hend : s₅.endRecord = s.endRecord := by
    have helapsed : s₅.elapsed = s.elapsed := by
      calc s₅.elapsed = (recordRefusal s₃ made).elapsed := hfaults.elapsed
        _ = s₂.elapsed := (htold.trans htold').elapsed
        _ = (s₁.log s₁.startRecord).elapsed := by rw [hready₂.rest]
        _ = s₁.elapsed := hstarted.elapsed
        _ = s.elapsed := by rw [hready₁.rest]
    funext exit
    rw [Session.endRecord, Session.endRecord, helapsed]
  refine ⟨rfl, ?_, ?_, logs, own, rs ++ rs', W, recordRefusal s₃ made,
    ⟨hready₁, hstarted, hready₂, htold.trans htold', ?_, ?_, ?_, ⟨hlength, hfiles⟩, hasked⟩,
    fun l hl => ⟨(hplaces l hl).1, fun htree => ?_⟩⟩
  · rw [Session.stdout_log, hs₅, stdout_recordOutcome, say, stdout_recordRefusal]
  · rw [hready₂.rest, Session.stdout_log, hready₁.rest]
  · rw [hend]
    exact hfaults.trans (.log_of_le hfaults.tuned mem_loggers.1 a.level_le_info)
  · simpa [or_imp, forall_and] using ⟨hrs, hrs'⟩
  · exact fun x hx => (List.mem_append.mp hx).elim (hlogs x) (hown x)
  · have hlast : (say (recordRefusal s₃ made) made').OnlyTold (s₅.log
        (s₅.endRecord (exitValue ((ending made').map .number)))) :=
      hs₅ ▸ (onlyTold_recordOutcome _ _).trans (.log _ _)
    have hrecorded : (recordRefusal s₃ made).HasTestAt a.path l :=
      ((hplaces l hl).2 htree).of_onlyTold (onlyTold_recordRefusal s₃ made)
    have hsaid : (say (recordRefusal s₃ made) made').HasTestAt a.path l := hrecorded
    exact hsaid.of_onlyTold hlast

namespace Course

variable {logs own : List Handler} {rs : List Record} {s' : Session}

/-- Time and host are those of the beginning. -/
lemma same (h : Course a made W s s₁ s₂ s₃ logs own rs s') :
    (s₁.stamp = s.stamp ∧ s₁.host = s.host) ∧ (s₂.stamp = s.stamp ∧ s₂.host = s.host) ∧
      s₃.stamp = s.stamp ∧ s₃.host = s.host := by
  have h₁ : s₁.stamp = s.stamp ∧ s₁.host = s.host := by
    rw [h.setUp.rest]
    exact ⟨rfl, rfl⟩
  have h₂ : s₂.stamp = s.stamp ∧ s₂.host = s.host := by
    rw [h.journal.rest]
    exact ⟨h.start.stamp.trans h₁.1, h.start.host.trans h₁.2⟩
  exact ⟨h₁, h₂, h.main.stamp.trans h₂.1, h.main.host.trans h₂.2⟩

/-- The logs of the run are those that its records come to. -/
lemma logCount_eq (h : Course a made W s s₁ s₂ s₃ logs own rs s') :
    s₁.logCount = logs.length ∧ s₂.logCount = (logs ++ own).length := by
  have hall : (logs ++ own).countP (·.sink.isFile) = (logs ++ own).length :=
    List.countP_eq_length.mpr fun x hx => (h.infos x hx).2
  have hlogs : logs.countP (·.sink.isFile) = logs.length :=
    List.countP_eq_length.mpr fun x hx => (h.infos x (List.mem_append_left own hx)).2
  have hsinks : ∀ hs : List Handler, (a.handlers hs).countP (·.sink.isFile) =
      hs.countP (·.sink.isFile) := by
    intro hs
    rw [Arguments.handlers]
    split
    · simp [List.countP_map, Function.comp_def]
    · rfl
  refine ⟨?_, ?_⟩
  · rw [Session.logCount, h.setUp.tuned.main,
      List.countP_cons_of_neg (by simp [console, Sink.isFile]), hlogs]
  · rw [Session.logCount, h.journal.tuned.main, hsinks,
      List.countP_cons_of_neg (by simp [console, Sink.isFile]), hall]

/-- **All records of a run.** -/
lemma records_eq (h : Course a made W s s₁ s₂ s₃ logs own rs s') :
    s'.records = s.records ++ s.startRecord ::
      (rs ++ (faults made ++ [s.endRecord (exitValue ((ending made).map .number))])) := by
  have hsay : (say s₃ made).records = s₃.records := rfl
  have h₂ : s₂.records = (s₁.log s₁.startRecord).records := by rw [h.journal.rest]
  have h₁ : s₁.records = s.records := by rw [h.setUp.rest]
  rw [h.finish.records, hsay, h.main.records, h₂, h.start.records, h₁]
  simp

lemma level_of_mem_faults {r : Record} (hr : r ∈ faults made) : r.level = Level.error := by
  unfold faults at hr
  split at hr
  · simp at hr
  · split at hr
    · rw [List.mem_singleton.mp hr]
      rfl
    · simp at hr
  · simp at hr

/-- All records after what is said about the outcome reach the level of the run. -/
lemma level_le_of_mem {r : Record} {exit : Text} (hr : r ∈ faults made ++ [s.endRecord exit]) :
    a.level ≤ r.level := by
  rcases List.mem_append.mp hr with hr | hr
  · rw [level_of_mem_faults hr]
    exact a.level_le_info.trans (by decide)
  · rw [List.mem_singleton.mp hr]
    exact a.level_le_info

/-- Faults are no routine, so the console has them in any case. -/
lemma aired_faults (hlogs : ∀ x ∈ logs, x.level = Level.info ∧ x.sink.isFile) (host : Host)
    (stamp : Text) (made : Except Failure Generated) :
    Record.aired host stamp (a.handlers (console :: logs)) (faults made) =
      (faults made).flatMap fun r => r.line stamp ++ r.losses host stamp logs.length := by
  rw [aired_eq_flatMap]
  refine List.flatMap_congr fun r hr => ?_
  have hlevel : Level.warning ≤ r.level := by
    rw [level_of_mem_faults hr]
    decide
  have hle : a.level ≤ r.level := a.level_le_info.trans ((by decide : Level.info ≤ _).trans hlevel)
  rw [aired_singleton hlogs hle, if_pos (.inr hlevel)]

/-- **What a run writes to the standard error output.** -/
lemma stderr_eq (h : Course a made W s s₁ s₂ s₃ logs own rs s') :
    let n := (logs ++ own).length
    s'.stderr = s.stderr ++ (s.startRecord.losses s.host s.stamp logs.length ++
      (a.shown s.host s.stamp n rs ++
        (complaint made ++
          (faults made).flatMap fun r => r.line s.stamp ++ r.losses s.host s.stamp n) ++
        a.shown s.host s.stamp n [s.endRecord (exitValue ((ending made).map .number))])) := by
  obtain ⟨⟨hstamp₁, hhost₁⟩, ⟨hstamp₂, hhost₂⟩, hstamp₃, hhost₃⟩ := h.same
  have hstart : Record.aired s.host s.stamp (console :: logs) [s.startRecord] =
      s.startRecord.losses s.host s.stamp logs.length := by
    -- at that time no run is verbose yet
    let quiet : Arguments := { a with verbose := false }
    have haired : Record.aired s.host s.stamp (quiet.handlers (console :: logs)) [s.startRecord] =
        quiet.shown s.host s.stamp logs.length [s.startRecord] :=
      aired_shown (fun x hx => h.infos x (List.mem_append_left own hx))
        (by simpa using ⟨le_rfl, le_rfl⟩)
    simpa [quiet, Arguments.handlers, Arguments.shown] using haired
  have hend : ∀ r ∈ [s.endRecord (exitValue ((ending made).map .number))],
      r.IsRoutine a.level := by
    simpa using ⟨a.level_le_info, le_rfl⟩
  have hsay : (say s₃ made).stderr = s₃.stderr ++ complaint made := rfl
  have hsaid : (say s₃ made).stamp = s₃.stamp ∧ (say s₃ made).host = s₃.host := ⟨rfl, rfl⟩
  have h₂ : s₂.stderr = (s₁.log s₁.startRecord).stderr := by rw [h.journal.rest]
  have h₁ : s₁.stderr = s.stderr := by rw [h.setUp.rest]
  rw [h.finish.stderr, hsay, hsaid.1, hsaid.2, h.main.stderr, h₂, h.start.stderr, h₁, hstamp₁,
    hhost₁, hstart, hstamp₂, hhost₂, hstamp₃, hhost₃, aired_shown h.infos h.routine,
    Record.aired_append, aired_faults h.infos, aired_shown h.infos hend]
  simp

end Course

/-! ### The outcome -/

/-- What a run leaves that has ended: what it printed, all its records, and on
the standard error output what it complained of and the failures that were not caught.
The other records stand around that if the run is verbose. There are also reports from
the logs, of which there are `n₀` at the start and `n` later: they stand where a record
has no encoding, and so does not get there. -/
structure Ended (a : Arguments) (s : Session) (n₀ n : ℕ) (out complaint : Text)
    (fs : List Record) (exit : Text) (s' : Session) : Prop where
  stdout : s'.stdout = s.stdout ++ out
  told : ∃ rs : List Record, (∀ r ∈ rs, r.IsRoutine a.level) ∧
    s'.records = s.records ++ s.startRecord :: (rs ++ (fs ++ [s.endRecord exit])) ∧
    s'.stderr = s.stderr ++ (s.startRecord.losses s.host s.stamp n₀ ++
      (a.shown s.host s.stamp n rs ++
        (complaint ++ fs.flatMap fun r => r.line s.stamp ++ r.losses s.host s.stamp n) ++
        a.shown s.host s.stamp n [s.endRecord exit]))

lemma exitValue_ok (g : Generated) :
    exitValue ((ending (.ok g)).map .number) = "0".toText := by
  change Text.ofInt 0 = _
  decide

lemma exitValue_refused (e : ScaffoldError) :
    exitValue ((ending (.error (.scaffold e))).map .number) = "1".toText := by
  change Text.ofInt 1 = _
  decide

lemma Course.ended {logs own : List Handler} {rs : List Record} {s' : Session} {out : Text}
    (h : Course a made W s s₁ s₂ s₃ logs own rs s') (hout : s'.stdout = s.stdout ++ out) :
    Ended a s s₁.logCount s₂.logCount out (complaint made) (faults made)
      (exitValue ((ending made).map .number)) s' := by
  rw [h.logCount_eq.1, h.logCount_eq.2]
  exact ⟨hout, rs, h.routine, h.records_eq, h.stderr_eq⟩

/-- **The outcome of a run**, for every session and all arguments that are
accepted, where the set-up of the journal and the log of the arguments raise
nothing, and the settings are read or refused. A run that makes what it was asked
for ends with status 0 and shows it, if the console takes that, and a run that is refused
ends with status 1 and says why. The other outcomes are failures that nobody catches: too
many directories are missing for the test, or a text has no encoding, be it the content
of the test or what is to be shown. -/
theorem program_outcome (hb : s.Begins)
    (hparse : Request.parse s.host.dialect (s.arguments.drop 1) = .ok (.run a))
    (hsetUp : runOn (Audit.setUp Audit.mainLogger [] Level.info) s = (.ok name, s₁))
    (hjournal : runOn (setUpJournal a) (s₁.log s₁.startRecord) = (.ok (), s₂))
    (hsettings : Settings.Answers (runOn (loadSettings a.config) s₂).1) :
    let made := (runOn (generateFor a) s₂).1
    let made' := told s.host.console made
    let run := runOn program s
    let Ends := fun out complaint fs exit =>
      Ended a s s₁.logCount s₂.logCount out complaint fs exit run.2
    (∀ g, made = .ok g ↔ ∃ settings, (runOn (loadSettings a.config) s₂).1 = .ok settings ∧
        (runOn (generate settings a.dryRun a.annotationName a.path) s₂).1 = .ok g) ∧
      (∀ g, made' = .ok g ↔ made = .ok g ∧ s.host.console.refusal? (display g) = none) ∧
      (∀ g, made' = .ok g → run.1 = .ok 0 ∧
        Ends (findingLine ++ generatingLine ++ display g) [] [] "0".toText) ∧
      (∀ e, made = .error (.scaffold e) → run.1 = .error (.exit (.number 1)) ∧
        Ends (progress e) (errorLine e) [] "1".toText) ∧
      ∀ f, made' = .error f → (∀ e, made ≠ .error (.scaffold e)) →
        run.1 = .error f ∧ Ends (findingLine ++ generatingLine) [] [f.record] "2".toText ∧
          ((f = .tooDeep ∧ a.dryRun = false ∧ a.AsksTooMuch s₂) ∨
            ∃ what, f = .unencodable what ∧ ((a.dryRun = false ∧ a.HasNoEncoding s₂ what) ∨
              ∃ g, made = .ok g ∧ s.host.console.refusal? (display g) = some what)) := by
  intro made made' run Ends
  rcases hmade : runOn (generateFor a) s₂ with ⟨m, s₃⟩
  rcases hrun : runOn program s with ⟨r, s'⟩
  obtain rfl : m = made := by simp only [made, hmade]
  -- what is printed on the way is known from what is made, and all else from the course
  obtain ⟨hprints, hfails⟩ := generateFor_prints hsettings hmade
  obtain ⟨rfl, hstdout, hstdout₂, logs, own, rs, W, s₄, hcourse, -⟩ :=
    program_course hb hparse hsetUp hjournal hmade hrun
  simp only [Ends, run, hrun]
  refine ⟨fun g => generateFor_eq_ok_iff, fun g => told_eq_ok_iff, fun g hg => ?_, fun e he => ?_,
    fun f hf huncaught => ?_⟩
  · have hout : s'.stdout = s.stdout ++ (findingLine ++ generatingLine ++ display g) := by
      rw [hstdout, hprints g (told_eq_ok_iff.mp hg).1, hstdout₂, List.append_assoc]
      simp only [made'] at hg
      rw [hg, displayed]
    have hended := hcourse.ended hout
    simp only [made'] at hg
    rw [hg, exitValue_ok] at hended
    rw [hg]
    exact ⟨rfl, hended⟩
  -- a refusal is told as it is: nothing is shown that the console could refuse
  · have htold : told s.host.console made = .error (.scaffold e) := by rw [he, told]
    have hprinted : s₃.stdout = s₂.stdout ++ progress e := by
      rcases hfails _ he with ⟨e', he', hprinted⟩ | ⟨-, -, ⟨hdeep, -⟩ | ⟨what, hwhat, -⟩⟩
      · obtain rfl := Failure.scaffold.inj he'
        exact hprinted
      · cases hdeep
      · cases hwhat
    have hout : s'.stdout = s.stdout ++ progress e := by
      rw [hstdout, hprinted, hstdout₂, htold, displayed, List.append_nil]
    have hended := hcourse.ended hout
    rw [htold, exitValue_refused] at hended
    rw [htold]
    exact ⟨rfl, hended⟩
  · have hwhy : s₃.stdout = s₂.stdout ++ (findingLine ++ generatingLine) ∧
        ((f = .tooDeep ∧ a.dryRun = false ∧ a.AsksTooMuch s₂) ∨
          ∃ what, f = .unencodable what ∧ ((a.dryRun = false ∧ a.HasNoEncoding s₂ what) ∨
            ∃ g, made = .ok g ∧ s.host.console.refusal? (display g) = some what)) := by
      rcases of_told_eq_error hf with hf | ⟨g, what, hg, hwhat, rfl⟩
      · rcases hfails f hf with ⟨e, rfl, -⟩ | ⟨hprinted, hreal, ⟨rfl, hasks⟩ | ⟨what, rfl, hnone⟩⟩
        · exact absurd hf (huncaught e)
        · exact ⟨hprinted, .inl ⟨rfl, hreal, hasks⟩⟩
        · exact ⟨hprinted, .inr ⟨what, rfl, .inl ⟨hreal, hnone⟩⟩⟩
      · exact ⟨hprints g hg, .inr ⟨what, rfl, .inr ⟨g, hg, hwhat⟩⟩⟩
    obtain ⟨hprinted, hwhy⟩ := hwhy
    simp only [made'] at hf
    have hout : s'.stdout = s.stdout ++ (findingLine ++ generatingLine) := by
      rw [hstdout, hprinted, hstdout₂, hf, displayed, List.append_nil]
    have hended := hcourse.ended hout
    rw [hf] at hended ⊢
    rcases hwhy with hdeep | ⟨what, rfl, hwhat⟩
    · obtain rfl := hdeep.1
      exact ⟨rfl, hended, .inl hdeep⟩
    · exact ⟨rfl, hended, .inr ⟨what, rfl, hwhat⟩⟩

/-- A run on the disk of `oneModule`, for the path with a thousand dots. -/
def deepRun : Session :=
  { oneModule with
    here := []
    logDirVar := some "logs".toText
    arguments := [programName, "Gen".toText, deepSource]
    journal := .start ⟨Level.debug, [⟨.collection, 0⟩]⟩ loggers }

/-- This run is neither done nor refused. -/
theorem program_outcome_deepRun : deepRun.Begins ∧
    ∃ a n₀ n, Request.parse deepRun.host.dialect (deepRun.arguments.drop 1) = .ok (.run a) ∧
      (runOn program deepRun).1 = .error .tooDeep ∧
      Ended a deepRun n₀ n (findingLine ++ generatingLine) [] [Failure.tooDeep.record] "2".toText
        (runOn program deepRun).2 := by
  let a : Arguments := ⟨"Gen".toText, deepSource, none, false, none, false⟩
  have hb : deepRun.Begins := ⟨Level.debug, rfl⟩
  have hparse : Request.parse deepRun.host.dialect (deepRun.arguments.drop 1) = .ok (.run a) := by
    decide +kernel
  have hsetUp : (runOn (Audit.setUp Audit.mainLogger [] Level.info) deepRun).1 =
      .ok Audit.mainLogger := by
    decide +kernel
  let s₁ := (runOn (Audit.setUp Audit.mainLogger [] Level.info) deepRun).2
  let s₂ := s₁.log s₁.startRecord
  have hdry : (runOn (generate .default true "Gen".toText deepSource) s₂).1.isOk = true := by
    decide +kernel
  have hmissing : s₂.disk.exists? s₂.here "m/src/test/kotlin".toText = false := by
    decide +kernel
  have hpath : settingsPath none s₂ = [] := by
    decide +kernel
  have hrun : runOn (Audit.setUp Audit.mainLogger [] Level.info) deepRun =
      (.ok Audit.mainLogger, s₁) := Prod.ext hsetUp rfl
  have hroom : s₂.host.testRoom + 1 ≤ 1000 := by
    decide +kernel
  have hlinks : s₂.disk.LinkFree := by
    obtain ⟨logs, hready, -⟩ := Audit.setUp_readies hb hrun
    refine (Session.OnlyTold.log s₁ _).disk.linkFree fun l t hl => ?_
    exact oneModule_isPlain.linkFree l t (hready.adds.get?_link hl)
  have hload : runOn (loadSettings none) s₂ = (.ok .default, s₂) := by
    rw [runOn_loadSettings, if_pos hpath]
  have hmade : (runOn (generateFor a) s₂).1 = .error .tooDeep := by
    rw [generateFor, runOn_bind_of_ok hload]
    exact (generate_tooDeep_iff false _ _ s₂ Settings.default_sourceRoots).mpr
      ⟨rfl, exists_ok_of_isOk hdry, lacksParents_deepSource hlinks hmissing hroom⟩
  have hjournal : runOn (setUpJournal a) (s₁.log s₁.startRecord) = (.ok (), s₂) := rfl
  have houtcome := program_outcome hb hparse hrun hjournal (by
    rw [hload]
    exact Settings.answers_ok _)
  have htold : told deepRun.host.console (runOn (generateFor a) s₂).1 = .error .tooDeep := by
    rw [hmade, told]
  have huncaught : ∀ e, (runOn (generateFor a) s₂).1 ≠ .error (.scaffold e) := by simp [hmade]
  obtain ⟨hend, hended, -⟩ := houtcome.2.2.2.2 .tooDeep htold huncaught
  exact ⟨hb, a, _, _, hparse, hend, hended⟩

end CommandLine

end TestScaffold
