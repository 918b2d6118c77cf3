import TestScaffold.Proofs.Audit.Finding
import TestScaffold.Proofs.Audit.Handlers
import TestScaffold.Proofs.Disk.Refusing

/-!
How setting up a logger ends.

* `openIn_ends` and `attach_ends`: the log of a directory is opened, or it is not,
  and only a directory for which too many directories are missing is an error.
* `runOn_setUp_of_ready`, `runOn_setUp_of_handlers` and `runOn_setUp_of_new` say what a
  set-up comes to, by what the journal has of its logger.
* `SetsUp` are the ways in which the set-up of a new logger ends (`setUp_setsUp`).
  A logger that is not new is returned as it is (`setUp_of_not_isNew`).
* `Escapes` is what the set-up lets through. `setUp_ends` puts it together: what
  escapes, what the logger writes to, and when it is returned.
* Something does escape: `setUp_escapes_fileForLogs`.
-/

namespace TestScaffold

namespace Audit

open TestScaffold.Action

variable {s : Session} {dir : Text} {x : Option Path} {d : Disk} {f : Failure} {j : Journal}

/-! ### The log -/

lemma isPath_logsOf (hhere : s.herePath.isPath) (k : ℕ) :
    ∀ c ∈ (pathOf (logsOf s.here k)).parts, c.isPath := by
  intro c hc
  have hmem : c = logsName ∨ c = markerName ∨ c ∈ s.here := by
    simp only [pathOf, logsOf, markerOf, List.mem_reverse, List.mem_cons] at hc
    exact hc.imp_right (Or.imp_right List.mem_of_mem_drop)
  rcases hmem with rfl | rfl | hc
  · decide
  · decide
  · refine Text.isPath_of_subset hhere fun b hb => ?_
    exact .tail (char '/') (Text.mem_join (List.mem_reverse.mpr hc) hb)

/-- What is found can be the path of a directory. -/
lemma Finds.isPath {p : Path} (hs : Usual s dir) (h : Finds s dir (some p) d) :
    ∀ c ∈ p.parts, c.isPath := by
  cases h with
  | given => exact Path.isPath_parts hs.dir
  | named hdir ht => exact Path.isPath_parts (hs.var _ ht)
  | marked => exact isPath_logsOf hs.herePath _

lemma isPath_logPath {p : Path} (hp : ∀ c ∈ p.parts, c.isPath) : (logPath p).toText.isPath := by
  refine Path.isPath_toText fun c hc => ?_
  rcases List.mem_append.mp hc with hc | hc
  · exact hp c hc
  · rw [List.mem_singleton.mp hc]
    decide

/-- No log is opened in a directory that cannot be made. -/
lemma not_opensAt_of_error {p : Path} {e : AccessError} {place : Location}
    (h : (s.disk.makePath s.here (s.host.logRoom + 1) p).1 = .error e) : ¬OpensAt s p d place := by
  rintro ⟨d₁, hmade, -⟩
  rw [hmade] at h
  cases h

/-- The ways in which opening the log of a directory ends that can have a path. -/
lemma openIn_ends {p : Path} (hhere : s.herePath.isPath) (hp : ∀ c ∈ p.parts, c.isPath) :
    (∃ d' place, OpensAt s p d' place ∧
        runOn (openIn p) s = (.ok (some (openedAt s.here p, place)), { s with disk := d' })) ∨
      (∀ d' place, ¬OpensAt s p d' place) ∧
        ∃ r d', s.disk.makePath s.here (s.host.logRoom + 1) p = (r, d') ∧
          ((r = .error .tooDeep ∧
              runOn (openIn p) s = (.error .logTooDeep, { s with disk := d' })) ∨
            r ≠ .error .tooDeep ∧ runOn (openIn p) s = (.ok none, { s with disk := d' })) := by
  have hmade := runOn_changeMost (s := s) fun d here => d.makePath here (s.host.logRoom + 1) p
  rw [openIn, runOn_host_bind, runOn_bind_of_ok hmade]
  rcases hmake : s.disk.makePath s.here (s.host.logRoom + 1) p with ⟨e | u, d⟩
  · right
    refine ⟨fun d' place => not_opensAt_of_error (by rw [hmake]), _, d, rfl, ?_⟩
    rcases Disk.makePath_failure hp (by rw [hmake]) with rfl | ⟨e', rfl⟩
    · exact .inl ⟨rfl, rfl⟩
    · exact .inr ⟨by simp, rfl⟩
  -- the directory is there now, so all that can be refused is the file
  dsimp only
  rw [runOn_herePath_bind]
  have hpath : (openedAt s.here p).isPath := Path.isPath_absolute hhere (isPath_logPath hp)
  cases hopen : d.openLog s.here (openedAt s.here p) with
  | error e =>
      obtain ⟨e', rfl⟩ := Disk.exists_system_of_openLog hpath hopen
      have hclosed : ∀ d' place, ¬OpensAt s p d' place := by
        rintro d' place ⟨d₁, hd₁, hopen'⟩
        rw [hmake] at hd₁
        obtain rfl := (Prod.mk.inj hd₁).2
        rw [hopen] at hopen'
        cases hopen'
      refine .inr ⟨hclosed, _, d, rfl, .inr ⟨by simp, ?_⟩⟩
      rw [openedAt, logPath] at hopen
      rw [runOn_bind_of_ok (runOn_changeFor_of_error hopen)]
      rfl
  | ok opened =>
      obtain ⟨d', place⟩ := opened
      refine .inl ⟨d', place, ⟨d, hmake, hopen⟩, ?_⟩
      rw [openedAt, logPath] at hopen
      rw [runOn_bind_of_ok (runOn_changeFor_of_ok hopen)]
      rfl

/-! ### The set-up -/

variable {name logger : Text} {level : ℤ}

/-- What becomes of a set-up of a new logger: the result, the disk, and the handlers
that the logger gets besides the console. -/
inductive SetsUp (s : Session) (dir logger : Text) (level : ℤ) :
    Except Failure Text → Disk → List Handler → Prop
  | strayed {f : Failure} {d : Disk} (h : Strays s dir f) :
      SetsUp s dir logger level (.error f) d []
  | without {d : Disk} (h : Finds s dir none d) : SetsUp s dir logger level (.ok logger) d []
  | opened {p : Path} {d d' : Disk} {place : Location} (hfinds : Finds s dir (some p) d)
      (hopens : OpensAt { s with disk := d } p d' place) :
      SetsUp s dir logger level (.ok logger) d' [⟨.file (openedAt s.here p) place, level⟩]
  | refused {p : Path} {d d' : Disk} (hfinds : Finds s dir (some p) d)
      (hclosed : ∀ d'' place, ¬OpensAt { s with disk := d } p d'' place)
      (hmakes : (d.makePath s.here (s.host.logRoom + 1) p).1 ≠ .error .tooDeep) :
      SetsUp s dir logger level (.ok logger) d' []
  | tooDeep {p : Path} {d d' : Disk} (hfinds : Finds s dir (some p) d)
      (hmakes : (d.makePath s.here (s.host.logRoom + 1) p).1 = .error .tooDeep) :
      SetsUp s dir logger level (.error .logTooDeep) d' []

/-- A logger without files gets the log of a directory, if it can be opened. -/
lemma attach_ends {p : Path} (hpaths : paths (s.journal.logger name) = [])
    (hhere : s.herePath.isPath) (hp : ∀ c ∈ p.parts, c.isPath) (level : ℤ) :
    (∃ d' place, OpensAt s p d' place ∧ runOn (attach name p level) s =
        (.ok (some (logPath p)), { s with
          disk := d'
          journal := (s.journal.meet name).addHandler name
            ⟨.file (openedAt s.here p) place, level⟩ })) ∨
      (∀ d' place, ¬OpensAt s p d' place) ∧ ∃ d',
        ((s.disk.makePath s.here (s.host.logRoom + 1) p).1 = .error .tooDeep ∧
            runOn (attach name p level) s =
              (.error .logTooDeep, { s with disk := d', journal := s.journal.meet name })) ∨
          ((s.disk.makePath s.here (s.host.logRoom + 1) p).1 ≠ .error .tooDeep ∧
            runOn (attach name p level) s =
              (.ok none, { s with disk := d', journal := s.journal.meet name })) := by
  set t : Session := { s with journal := s.journal.meet name } with ht
  have hnone : runOn (attached (t.journal.logger name) (p.child fileName)) t = (.ok false, t) := by
    have hsame : (t.journal.logger name).handlers.filterMap (·.path?) = [] := hpaths
    rw [attached, if_pos hsame, runOn_pure]
  rw [attach, runOn_record_bind, runOn_get_bind, runOn_bind_of_ok hnone, if_neg (by simp)]
  rcases openIn_ends (s := t) hhere hp with
    ⟨d', place, hopens, hrun⟩ | ⟨hclosed, r, d', hmake, ⟨rfl, hrun⟩ | ⟨hr, hrun⟩⟩
  · exact .inl ⟨d', place, hopens, runOn_bind_of_ok hrun _⟩
  · have hdeep : (t.disk.makePath t.here (t.host.logRoom + 1) p).1 = .error .tooDeep := by
      rw [hmake]
    exact .inr ⟨hclosed, d', .inl ⟨hdeep, runOn_bind_of_error hrun _⟩⟩
  · have hmakes : (t.disk.makePath t.here (t.host.logRoom + 1) p).1 ≠ .error .tooDeep := by
      rwa [hmake]
    exact .inr ⟨hclosed, d', .inr ⟨hmakes, runOn_bind_of_ok hrun _⟩⟩

/-- The journal in which a new logger has its level and the console. -/
def withConsole (j : Journal) (logger : Text) (level : ℤ) : Journal :=
  ((j.meet logger).setLevel logger level).addHandler logger ⟨.console, Level.warning⟩

/-- A new level changes no handlers. -/
lemma handlers_setLevel (j : Journal) (name m : Text) (level : ℤ) :
    ((j.setLevel name level).logger m).handlers = (j.logger m).handlers := by
  rw [Journal.logger_setLevel, Function.apply_update fun _ => Logger.handlers]
  exact congrFun (Function.update_eq_self name fun m => (j.logger m).handlers) m

lemma handlers_addHandler (j : Journal) (name : Text) (x : Handler) :
    ((j.addHandler name x).logger name).handlers = (j.logger name).handlers ++ [x] := by
  rw [Journal.logger_addHandler, Function.update_self]

lemma handlers_withConsole (h : (j.logger logger).handlers = []) :
    ((withConsole j logger level).logger logger).handlers = [⟨.console, Level.warning⟩] := by
  rw [withConsole, handlers_addHandler, handlers_setLevel]
  exact congrArg (· ++ [_]) h

/-- What is set up already stays as it is. -/
lemma runOn_setUp_of_ready {n : Text} (hname : runOn (setUpName name) s = (.ok n, s))
    (hready : n ∈ s.journal.ready) (dir : Text) (level : ℤ) :
    runOn (setUp name dir level) s = (.ok (loggerName n), s) := by
  rw [setUp, runOn_bind_of_ok hname, runOn_get_bind]
  dsimp only
  rw [if_pos hready]
  rfl

/-- A logger with handlers only gets the level. -/
lemma runOn_setUp_of_handlers {n : Text} (hname : runOn (setUpName name) s = (.ok n, s))
    (hready : n ∉ s.journal.ready) (h : (s.journal.logger (loggerName n)).handlers ≠ [])
    (dir : Text) (level : ℤ) : runOn (setUp name dir level) s =
      (.ok (loggerName n), { s with journal :=
        ((s.journal.meet (loggerName n)).setLevel (loggerName n) level).markReady n }) := by
  have hne : (((s.journal.meet (loggerName n)).setLevel (loggerName n) level).logger
      (loggerName n)).handlers ≠ [] := by
    rw [handlers_setLevel]
    exact h
  rw [setUp, runOn_bind_of_ok hname, runOn_get_bind]
  dsimp only
  rw [if_neg hready, runOn_record_bind, runOn_get_bind, if_pos hne]
  rfl

/-- A new logger has its level and the console before a directory is looked for. -/
lemma runOn_setUp_of_new {n : Text} (hname : runOn (setUpName name) s = (.ok n, s))
    (hready : n ∉ s.journal.ready) (hnew : (s.journal.logger (loggerName n)).handlers = [])
    (dir : Text) (level : ℤ) : runOn (setUp name dir level) s =
      runOn (chooseDir dir >>= conclude n level)
        { s with journal := withConsole s.journal (loggerName n) level } := by
  have hempty : (((s.journal.meet (loggerName n)).setLevel (loggerName n) level).logger
      (loggerName n)).handlers = [] := (handlers_setLevel _ _ _ _).trans hnew
  rw [setUp, runOn_bind_of_ok hname, runOn_get_bind]
  dsimp only
  rw [if_neg hready, runOn_record_bind, runOn_get_bind, if_neg (by simp [hempty]),
    runOn_record_bind, chooseDir]
  split <;> rfl

/-- **The set-up of a new logger.** -/
theorem setUp_setsUp {n : Text} (hs : Usual s dir) (hname : runOn (setUpName name) s = (.ok n, s))
    (hready : n ∉ s.journal.ready) (hnew : (s.journal.logger (loggerName n)).handlers = [])
    (level : ℤ) : ∃ r d j own, runOn (setUp name dir level) s =
        (r, { s with disk := d, journal := j }) ∧
      SetsUp s dir (loggerName n) level r d own ∧
      (j.logger (loggerName n)).handlers = ⟨.console, Level.warning⟩ :: own := by
  set j₀ := withConsole s.journal (loggerName n) level with hj₀
  have hconsole : (j₀.logger (loggerName n)).handlers = [⟨.console, Level.warning⟩] :=
    handlers_withConsole hnew
  have hrun := runOn_setUp_of_new hname hready hnew dir level
  rw [← hj₀] at hrun
  -- the search fails, finds nothing, or finds a directory; the console is attached in any case
  rcases finds_or_strays s dir with ⟨x, d, hfinds⟩ | ⟨f, hstrays⟩
  swap
  · obtain ⟨d, -, hd⟩ := (OnlyMakes.ite (findLogDir_onlyMakes []) (.pure _) :
      OnlyMakes (chooseDir dir)) { s with journal := j₀ }
    have hfails := runOn_of_strays (hs.withJournal j₀) (hstrays.withJournal j₀)
    exact ⟨.error f, d, j₀, [], hrun.trans (runOn_bind_of_error (Prod.ext hfails hd) _),
      .strayed hstrays, hconsole⟩
  have hfound := runOn_of_finds (hs.withJournal j₀) (hfinds.withJournal j₀)
  rw [runOn_bind_of_ok hfound] at hrun
  cases x with
  | none => exact ⟨_, d, _, [], hrun, .without hfinds, hconsole⟩
  | some p =>
      set t : Session := { s with disk := d, journal := j₀ } with ht
      have hpaths : paths (t.journal.logger (loggerName n)) = [] := by
        simp [paths, ht, hconsole, Handler.path?]
      rcases attach_ends hpaths hs.herePath (hfinds.isPath hs) level with
        ⟨d', place, hopens, hattach⟩ | ⟨hclosed, d', ⟨hdeep, hattach⟩ | ⟨hmakes, hattach⟩⟩
      · have hdiscard := (runOn_discard_eq_ok (u := ())).mpr ⟨_, hattach⟩
        refine ⟨_, d', _, _, hrun.trans (runOn_bind_of_ok hdiscard _), .opened hfinds hopens, ?_⟩
        exact (handlers_addHandler _ _ _).trans (congrArg (· ++ [_]) hconsole)
      · have hdiscard := runOn_discard_eq_error.mpr hattach
        exact ⟨_, d', _, [], hrun.trans (runOn_bind_of_error hdiscard _), .tooDeep hfinds hdeep,
          hconsole⟩
      · have hdiscard := (runOn_discard_eq_ok (u := ())).mpr ⟨_, hattach⟩
        exact ⟨_, d', _, [], hrun.trans (runOn_bind_of_ok hdiscard _),
          .refused hfinds hclosed hmakes, hconsole⟩

/-- A logger that is set up already, or has handlers, keeps what it has. -/
lemma setUp_of_not_isNew {n : Text} (hname : runOn (setUpName name) s = (.ok n, s))
    (h : ¬IsNew s name) (dir : Text) (level : ℤ) : ∃ j,
      runOn (setUp name dir level) s = (.ok (loggerName n), { s with journal := j }) ∧
        ∀ m, (j.logger m).handlers = (s.journal.logger m).handlers := by
  by_cases hready : n ∈ s.journal.ready
  · exact ⟨s.journal, runOn_setUp_of_ready hname hready dir level, fun _ => rfl⟩
  · have hne : (s.journal.logger (loggerName n)).handlers ≠ [] := fun hnil =>
      h ⟨n, hname, hready, hnil⟩
    refine ⟨_, runOn_setUp_of_handlers hname hready hne dir level, fun m => ?_⟩
    exact handlers_setLevel (s.journal.meet (loggerName n)) (loggerName n) m level

/-- What escapes from the set-up of a new logger. -/
inductive Escapes (s : Session) (dir : Text) : Failure → Prop
  | strays {f : Failure} (h : Strays s dir f) : Escapes s dir f
  | tooDeep {p : Path} {d : Disk} (hfinds : Finds s dir (some p) d)
      (hmakes : (d.makePath s.here (s.host.logRoom + 1) p).1 = .error .tooDeep) :
      Escapes s dir .logTooDeep

/-- It is refused by the system, or there are too many directories to be made. -/
lemma Escapes.kinds (hs : Usual s dir) (h : Escapes s dir f) :
    (∃ e, f = .system e) ∨ f = .logTooDeep := by
  have hlogs : ∀ k, (Disk.pathTo (logsOf s.here k)).isPath := by
    intro k
    rw [← toText_pathOf]
    exact Path.isPath_toText (isPath_logsOf hs.herePath k)
  cases h with
  | tooDeep => exact .inr rfl
  | strays h =>
      cases h with
      | named hdir ht hne hmade =>
          rcases Disk.makePath_failure (Path.isPath_parts (hs.var _ ht)) hmade with rfl | ⟨e, rfl⟩
          · exact .inr rfl
          · exact .inl ⟨e, rfl⟩
      | unseen hk hreach hmarker =>
          obtain ⟨e, rfl⟩ := Disk.exists_system_of_isDirStrict hmarker
          exact .inl ⟨e, rfl⟩
      | blocked hk hreach hfound hmade =>
          obtain ⟨e, rfl⟩ := Disk.exists_system_of_ensureDirStrict (hlogs _) hmade
          exact .inl ⟨e, rfl⟩

/-- At most one directory is found. -/
lemma Finds.unique {x' : Option Path} {d' : Disk} (hs : Usual s dir) (h : Finds s dir x d)
    (h' : Finds s dir x' d') : x = x' ∧ d = d' := by
  have heq := (runOn_of_finds hs h).symm.trans (runOn_of_finds hs h')
  obtain ⟨hx, hd⟩ := Prod.mk.inj heq
  exact ⟨Except.ok.inj hx, congrArg Session.disk hd⟩

lemma Finds.unique_some {p p' : Path} {d' : Disk} (hs : Usual s dir) (h : Finds s dir (some p) d)
    (h' : Finds s dir (some p') d') : p = p' ∧ d = d' :=
  (h.unique hs h').imp_left Option.some.inj

/-- Where a directory is found, or none, nothing strays. -/
lemma Finds.not_strays (hs : Usual s dir) (h : Finds s dir x d) : ¬Strays s dir f := by
  intro hf
  have hrun := runOn_of_strays hs hf
  rw [runOn_of_finds hs h] at hrun
  cases hrun

/-- The set-up of a new logger ends with what escapes from it. -/
lemma SetsUp.error_iff {r : Except Failure Text} {own : List Handler} (hs : Usual s dir)
    (h : SetsUp s dir logger level r d own) : r = .error f ↔ Escapes s dir f := by
  constructor
  · rintro rfl
    cases h with
    | strayed h => exact .strays h
    | tooDeep hfinds hmakes => exact .tooDeep hfinds hmakes
  · intro hf
    cases hf with
    | strays hf =>
        cases h with
        | strayed h =>
            have hsame := (runOn_of_strays hs h).symm.trans (runOn_of_strays hs hf)
            rw [Except.error.inj hsame]
        | without h => exact absurd hf (h.not_strays hs)
        | opened hfinds => exact absurd hf (hfinds.not_strays hs)
        | refused hfinds => exact absurd hf (hfinds.not_strays hs)
        | tooDeep hfinds => exact absurd hf (hfinds.not_strays hs)
    | @tooDeep p d₁ hfinds hmakes =>
        cases h with
        | strayed h => exact absurd h (hfinds.not_strays hs)
        | without h => exact absurd (hfinds.unique hs h).1 (by simp)
        | opened hfinds' hopens =>
            obtain ⟨rfl, rfl⟩ := hfinds.unique_some hs hfinds'
            exact absurd hopens (not_opensAt_of_error hmakes)
        | refused hfinds' _ hmakes' =>
            obtain ⟨rfl, rfl⟩ := hfinds.unique_some hs hfinds'
            exact absurd hmakes hmakes'
        | tooDeep => rfl

/-- A new logger gets the log that can be opened, if there is one, and no other
file. -/
lemma SetsUp.handlers {r : Except Failure Text} {own : List Handler} (hs : Usual s dir)
    (h : SetsUp s dir logger level r d own) :
    (∃ p d d' place, Finds s dir (some p) d ∧ OpensAt { s with disk := d } p d' place ∧
        own = [⟨.file (openedAt s.here p) place, level⟩]) ∨
      (own = [] ∧ ∀ p d d' place, Finds s dir (some p) d →
        ¬OpensAt { s with disk := d } p d' place) := by
  cases h with
  | strayed h => exact .inr ⟨rfl, fun _ _ _ _ hfinds => absurd h (hfinds.not_strays hs)⟩
  | without h =>
      refine .inr ⟨rfl, fun p d₁ _ _ hfinds => ?_⟩
      exact absurd (hfinds.unique hs h).1 (by simp)
  | opened hfinds hopens => exact .inl ⟨_, _, _, _, hfinds, hopens, rfl⟩
  | refused hfinds hclosed _ =>
      refine .inr ⟨rfl, fun p d₁ d₂ place hfinds' => ?_⟩
      obtain ⟨rfl, rfl⟩ := hfinds.unique_some hs hfinds'
      exact hclosed d₂ place
  | tooDeep hfinds hmakes =>
      refine .inr ⟨rfl, fun p d₁ d₂ place hfinds' => ?_⟩
      obtain ⟨rfl, rfl⟩ := hfinds.unique_some hs hfinds'
      exact not_opensAt_of_error hmakes

/-- **How a set-up ends**, for every name, directory and level. A logger that is set
up already, or that has handlers, is returned as it is. A new one gets the console,
and the log of the directory if that can be made and the log be opened; it is
returned, unless one of the steps that are not guarded fails: making the directory
of the environment, looking for a marker, making the directory in it, and making too
many directories at once. -/
theorem setUp_ends (hs : Usual s dir) (name : Text) (level : ℤ) :
    ∃ n, runOn (setUpName name) s = (.ok n, s) ∧
      let run := runOn (setUp name dir level) s
      (∀ f, run.1 = .error f ↔ IsNew s name ∧ Escapes s dir f) ∧
      (∀ f, Escapes s dir f → (∃ e, f = .system e) ∨ f = .logTooDeep) ∧
      ((IsNew s name → ∀ f, ¬Escapes s dir f) → run.1 = .ok (loggerName n)) ∧
      (IsNew s name → ∃ own,
        (run.2.journal.logger (loggerName n)).handlers = ⟨.console, Level.warning⟩ :: own ∧
        ((∃ p d d' place, Finds s dir (some p) d ∧ OpensAt { s with disk := d } p d' place ∧
            own = [⟨.file (openedAt s.here p) place, level⟩]) ∨
          (own = [] ∧ ∀ p d d' place, Finds s dir (some p) d →
            ¬OpensAt { s with disk := d } p d' place))) ∧
      (¬IsNew s name → run.2.disk = s.disk ∧
        ∀ m, (run.2.journal.logger m).handlers = (s.journal.logger m).handlers) := by
  obtain ⟨n, hname⟩ := runOn_setUpName name s
  refine ⟨n, hname, ?_⟩
  by_cases hnew : IsNew s name
  · obtain ⟨n', hname', hready, hempty⟩ := hnew
    obtain rfl := Except.ok.inj (Prod.mk.inj (hname'.symm.trans hname)).1
    have hnew : IsNew s name := ⟨n', hname', hready, hempty⟩
    obtain ⟨r, d, j, own, hrun, hsets, hhandlers⟩ := setUp_setsUp hs hname' hready hempty level
    dsimp only
    rw [hrun]
    refine ⟨fun f => ?_, fun f => Escapes.kinds hs, fun hnone => ?_, fun _ => ?_,
      fun hold => absurd hnew hold⟩
    · rw [hsets.error_iff hs]
      exact ⟨fun h => ⟨hnew, h⟩, fun h => h.2⟩
    · cases hsets with
      | strayed h => exact absurd (.strays h) (hnone hnew _)
      | tooDeep hfinds hmakes => exact absurd (.tooDeep hfinds hmakes) (hnone hnew _)
      | without | opened | refused => rfl
    · exact ⟨own, hhandlers, hsets.handlers hs⟩
  · obtain ⟨j, hrun, hsame⟩ := setUp_of_not_isNew hname hnew dir level
    dsimp only
    rw [hrun]
    refine ⟨fun f => ⟨fun h => (by cases h), fun h => absurd h.1 hnew⟩, fun f => Escapes.kinds hs,
      fun _ => rfl, fun h => absurd h hnew, fun _ => ⟨rfl, hsame⟩⟩

/-! ### What escapes -/

/-- A session at the root, where the environment wants the log in a directory for
which there is a file. -/
def fileForLogs : Session :=
  { host := .lenient 984 981 .late
    disk := ⟨[(["f".toText], .file [])]⟩
    here := []
    settingsVar := none
    logDirVar := some "f".toText
    arguments := []
    stamp := []
    elapsed := []
    journal := .start ⟨Level.warning, []⟩ [mainLogger]
    stdout := []
    stderr := []
    records := [] }

/-- **The directory that the environment names is not guarded**: the set-up of the
program fails where a file is in its place. -/
theorem setUp_escapes_fileForLogs : (runOn (setUp mainLogger [] Level.info) fileForLogs).1 =
    .error (.system ⟨.exists, some "f".toText⟩) := by
  decide +kernel

/-- A session in a directory with a marker, where a file is in the place of the
logs. -/
def fileInMarker : Session :=
  let here : Location := ["w".toText]
  { fileForLogs with
    disk := ⟨[(here, .dir), (markerName :: here, .dir), (logsName :: markerName :: here, .file [])]⟩
    here := here
    logDirVar := none }

lemma fileInMarker_usual : Usual fileInMarker [] where
  isTree := Disk.isTree_of_nodes (by decide +kernel)
  here := by decide +kernel
  herePath := by decide +kernel
  var := by simp [fileInMarker]
  dir := by simp

lemma fileInMarker_strays : Strays fileInMarker []
    (.system ⟨.exists, some "/w/.utgen/logs".toText⟩) :=
  have hreach : Reaches fileInMarker [] 0 := ⟨⟨rfl, by simp [fileInMarker]⟩, by simp⟩
  .blocked (by decide) hreach (by decide +kernel)
    (e := .system ⟨.exists, some "/w/.utgen/logs".toText⟩) (by rfl)

/-- Nor is the directory in a marker. -/
theorem setUp_ends_fileInMarker : Usual fileInMarker [] ∧
    (runOn (setUp mainLogger [] Level.info) fileInMarker).1 =
      .error (.system ⟨.exists, some "/w/.utgen/logs".toText⟩) := by
  refine ⟨fileInMarker_usual, ?_⟩
  have hnew : IsNew fileInMarker mainLogger :=
    ⟨mainLogger, rfl, by decide +kernel, by decide +kernel⟩
  obtain ⟨n, -, hescapes, -⟩ := setUp_ends fileInMarker_usual mainLogger Level.info
  exact (hescapes _).mpr ⟨hnew, .strays fileInMarker_strays⟩

end Audit

end TestScaffold
