import TestScaffold.Proofs.Audit.Ending
import TestScaffold.Proofs.Session.Twins

/-!
Logs that are attached, and what nobody else sees of it.

* An audit log that is opened is called by its name (`OpensAt.called`), so setting
  up and attaching keep a session tidy (`setUp_tidies`, `attach_tidies`).
* The log of one directory is attached alike in twins (`attach_indifferent`).
* Attaching the log of a directory that is there does not fail, and makes a twin:
  only a log may be new (`attach_of_isDir`). So does a change of the level.
-/

namespace TestScaffold.Audit

open TestScaffold.Action

variable {s s' : Session} {name : Text} {dir : Path} {d' : Disk} {place : Location} {level : ℤ}

/-! ### Opening -/

lemma steps_openedAt (hs : s.Tidy) (hdir : ∀ b ∈ dir.parts, b ≠ [] ∧ char '/' ∉ b) :
    ∃ before, Disk.steps (openedAt s.here dir) = before ++ [fileName] :=
  Disk.steps_absolute_child hs.isPlain.isName_here isName_fileName hdir

/-- **An audit log that is opened is called by its name.** -/
lemma OpensAt.called (h : OpensAt s dir d' place) (hs : s.Tidy)
    (hdir : ∀ b ∈ dir.parts, b ≠ [] ∧ char '/' ∉ b) :
    Disk.Called fileName place ∧ d'.Plain s.here := by
  have hplain := hs.plain.adds h.adds.1
  obtain ⟨d, hmade, hopen⟩ := h
  have hadds := s.disk.makePath_adds s.here (s.host.logRoom + 1) dir
  rw [hmade] at hadds
  obtain ⟨before, hsteps⟩ := steps_openedAt hs hdir
  exact ⟨(Disk.twins_of_openLog (hs.plain.adds hadds) isName_fileName hsteps hopen).1, hplain⟩

lemma attach_tidies (name : Text) (level : ℤ) (hdir : ∀ b ∈ dir.parts, b ≠ [] ∧ char '/' ∉ b) :
    Tidies (attach name dir level) := by
  intro s hs
  have hattaches := attach_attaches name dir level s
  generalize (runOn (attach name dir level) s).1 = r, (runOn (attach name dir level) s).2 = s'
    at hattaches
  cases hattaches with
  | there => exact ⟨Session.tidy_of_logs hs.plain hs.logs, _, _, .refl _, rfl⟩
  | refused hr hadds =>
      exact ⟨Session.tidy_of_logs (hs.plain.adds hadds) hs.logs, _, _, hadds, rfl⟩
  | added hnew hopens =>
      obtain ⟨hcalled, hplain⟩ := hopens.called hs hdir
      refine ⟨Session.tidy_of_logs hplain fun l hl => ?_, _, _, hopens.adds.1, rfl⟩
      rcases Journal.writesTo_of_addHandler hl with ⟨path, hsink⟩ | hl
      · exact (Sink.file.inj hsink).2 ▸ hcalled
      · exact hs.logs l hl

/-! ### The set-up -/

/-- The directory that is found has names that are parts of a path. -/
lemma parts_of_findLogDir {start : Text} {p : Path}
    (h : runOn (findLogDir start) s = (.ok (some p), s')) :
    ∀ b ∈ p.parts, b ≠ [] ∧ char '/' ∉ b := by
  have hsearch : ∀ (start : Text) (s : Session), runOn (do
      let p ← canonical (Path.ofText start).toText
      searchUp searchDepth p.slashes p.parts.reverse) s = (.ok (some p), s') →
        ∀ b ∈ p.parts, b ≠ [] ∧ char '/' ∉ b := by
    intro start s h b hb
    obtain ⟨q, s₁, hq, h⟩ := runOn_bind_eq_ok.mp h
    rcases (searchUp_eq_some h).2 b hb with hb | rfl | rfl
    · exact Disk.parts_of_canonical (canonical_eq_ok hq) b (List.mem_reverse.mp hb)
    · decide
    · decide
  rw [findLogDir, runOn_get_bind] at h
  dsimp only at h
  split at h
  · rw [runOn_host_bind] at h
    obtain ⟨x, s₁, -, h⟩ := runOn_bind_eq_ok.mp h
    cases x with
    | error e => exact absurd (Prod.mk.inj h).1 (by simp)
    | ok u =>
        obtain rfl := Option.some.inj (Except.ok.inj (Prod.mk.inj h).1)
        exact Path.parts_ofText _
  · split at h
    · obtain ⟨start, s₁, -, h⟩ := runOn_bind_eq_ok.mp h
      exact hsearch start s₁ h
    · obtain ⟨start, s₁, -, h⟩ := runOn_bind_eq_ok.mp h
      exact hsearch start s₁ h

/-- **The set-up keeps a session tidy.** -/
lemma setUp_tidies (level : ℤ) : Tidies (setUp mainLogger [] level) := by
  have hname : setUpName mainLogger = pure mainLogger := rfl
  have hready : ∀ n, Tidies (do record (·.markReady n); return loggerName n) := by
    intro n
    refine (Tidies.record ?_).bind fun _ _ => .pure _
    exact fun j l hl => .inr hl
  rw [setUp, hname]
  refine (Tidies.pure _).bind fun n _ => ?_
  refine (Tidies.of_onlyMakes .get).bind fun s _ => .ite (.pure _) ?_
  refine (Tidies.record ?_).bind fun _ _ => ?_
  · intro j l hl
    exact .inr (Journal.writesTo_of_setLevel hl)
  refine (Tidies.of_onlyMakes .get).bind fun s _ => .ite (hready n) ?_
  refine (Tidies.record ?_).bind fun _ _ => ?_
  · intro j l hl
    exact .inr ((Journal.writesTo_of_addHandler hl).resolve_left (by simp))
  rw [if_pos rfl]
  refine (Tidies.of_onlyMakes (findLogDir_onlyMakes [])).bind fun found hfound => ?_
  cases found with
  | none => exact hready n
  | some p =>
      obtain ⟨s, s', hrun⟩ := hfound
      exact (attach_tidies _ _ (parts_of_findLogDir hrun)).discard.bind fun _ _ => hready n

/-! ### The same log for twins -/

lemma attached_indifferent (l : Logger) (path : Path) : Indifferent false (attached l path) := by
  have hcanonical : Indifferent false (canonical path.toText) := by
    refine (Indifferent.look fun s s' hs => ?_).bind fun x _ => ?_
    · exact Disk.canonical_eq hs.tidy.plain.linkFree hs.tidy'.plain.linkFree _ _
    · cases x with
      | ok p => exact .pure p
      | error e => exact .throw _
  rw [attached]
  exact .ite (.pure _) (hcanonical.bind fun _ _ => .pure _)

lemma openIn_indifferent (dir : Path) : Indifferent false (openIn dir) := by
  -- directories are made in both sessions or in none, and then a log is opened or refused in both
  refine Indifferent.host.bind fun host _ => ?_
  have hmakes : ∀ (d : Disk) here, d.Adds (d.makePath here (host.logRoom + 1) dir).2 :=
    fun d here => d.makePath_adds here _ dir
  refine (Indifferent.changeMost (fun s s' hs => ?_) hmakes).bind fun x _ => ?_
  · exact hs.disk.makePath hs.tidy.plain hs.plain' _ dir
  cases x with
  | error e =>
      cases e with
      | system e => exact .pure none
      | _ => exact .throw _
  | ok u =>
      refine Indifferent.herePath.bind fun here _ => ?_
      refine (Indifferent.changeFor (fun s s' hs => ?_) fun d d' here a hp hopen => ?_).bind
        fun y _ => ?_
      · exact hs.disk.openLog hs.tidy.plain hs.plain' _
      · exact hp.adds (Disk.adds_of_openLog hopen).1
      cases y with
      | error e =>
          cases e with
          | system e => exact .pure none
          | _ => exact .throw _
      | ok place => exact .pure _

/-- **The log of a directory is attached alike in twins** that have the same loggers. -/
lemma attach_indifferent (name : Text) (level : ℤ) (hdir : ∀ b ∈ dir.parts, b ≠ [] ∧ char '/' ∉ b) :
    Indifferent false (attach name dir level) := by
  have hlogger : ∀ {j j' : Journal}, j'.loggers = j.loggers → j'.logger name = j.logger name :=
    fun h => by rw [Journal.logger, Journal.logger, h]
  refine (Indifferent.record ?_ ?_).bind fun _ _ => ?_
  · exact fun _ _ h => h
  · exact fun _ _ h => .inr h
  refine Indifferent.get_bind (fun s s' hs => ?_) fun s => ?_
  · rw [hlogger (hs.loggers rfl)]
  refine (attached_indifferent _ _).bind fun there _ => .ite (.pure _) ?_
  refine (openIn_indifferent dir).bind fun x hx => ?_
  cases x with
  | none => exact .pure _
  | some opened =>
      obtain ⟨path, place⟩ := opened
      obtain ⟨t, t', ht, hrun⟩ := hx
      -- the handler that is new stands at a log, as all others do
      have hcalled : Disk.Called fileName place := by
        rcases openIn_cases dir t with ⟨r, d, hr, -, hrun'⟩ | ⟨d', place', hopens, hrun'⟩
        · rw [hrun] at hrun'
          exact absurd (Prod.mk.inj hrun').1.symm (hr _)
        · rw [hrun] at hrun'
          obtain ⟨-, rfl⟩ := Prod.mk.inj (Option.some.inj (Except.ok.inj (Prod.mk.inj hrun').1))
          exact (hopens.called ht hdir).1
      refine (Indifferent.record ?_ ?_).bind fun _ _ => .pure _
      · intro j j' h
        simp only [Journal.addHandler, Journal.set, hlogger h, h]
      · intro j l hl
        refine (Journal.writesTo_of_addHandler hl).imp_left ?_
        rintro ⟨path', hsink⟩
        exact (Sink.file.inj hsink).2 ▸ hcalled

/-! ### A log for one of them -/

/-- **Attaching the log of a directory that is there makes a twin**, and does not
fail. -/
theorem attach_of_isDir {path : Text} (hs : s.Tidy) (hhere : s.herePath.isPath)
    (hdir : s.disk.isDir s.here path) (name : Text) (level : ℤ) :
    ∃ x, (runOn (attach name (Path.ofText path) level) s).1 = .ok x ∧
      s.Twins true (runOn (attach name (Path.ofText path) level) s).2 := by
  have hpath : ∀ b ∈ (Path.ofText path).parts, b.isPath :=
    Path.isPath_parts (Disk.isDir_iff.mp hdir).1
  have hparts : ∀ b ∈ (Path.ofText path).parts, b ≠ [] ∧ char '/' ∉ b := Path.parts_ofText path
  have hmade : s.disk.makePath s.here (s.host.logRoom + 1) (Path.ofText path) = (.ok (), s.disk) :=
    Disk.makePath_of_isDir hs.plain.linkFree hs.plain.here hdir _
  have hsame : s.Twins true { s with journal := s.journal.meet name } :=
    Session.twins_of_logs hs (.refl _ _ _) hs.plain hs.logs
  rw [attach, runOn_record_bind, runOn_get_bind]
  set t : Session := { s with journal := s.journal.meet name } with ht
  rcases attached_cases (t.journal.logger name) (logPath (Path.ofText path)) t with
    ⟨p, -, -, hrun⟩ | ⟨e, he, -⟩ | ⟨-, hrun⟩
  · rw [logPath] at hrun
    rw [runOn_bind_of_ok hrun]
    exact ⟨_, rfl, hsame⟩
  · -- the path of the log can be one, so it stands for some path
    obtain ⟨q, hq⟩ := Disk.exists_canonical (d := s.disk) hs.plain.linkFree hhere
      (isPath_logPath hpath)
    exact absurd (he.symm.trans hq) (by simp)
  rw [logPath] at hrun
  rw [runOn_bind_of_ok hrun, if_neg (by simp)]
  rcases openIn_ends (s := t) hhere hpath with
    ⟨d', place, hopens, hrun⟩ | ⟨-, r, d', hmake, hends⟩
  · rw [runOn_bind_of_ok hrun]
    obtain ⟨hcalled, hplain⟩ := hopens.called hsame.tidy' hparts
    obtain ⟨d, hd, hopen⟩ := hopens
    obtain rfl : s.disk = d := (Prod.mk.inj (hmade.symm.trans hd)).2
    obtain ⟨before, hsteps⟩ := steps_openedAt hs hparts
    refine ⟨_, rfl, Session.twins_of_logs hs ?_ hplain fun l hl => ?_⟩
    · exact (Disk.twins_of_openLog hs.plain isName_fileName hsteps hopen).2
    · rcases Journal.writesTo_of_addHandler hl with ⟨path', hsink⟩ | hl
      · exact (Sink.file.inj hsink).2 ▸ hcalled
      · exact hs.logs l hl
  · -- the directory is there, so the file is what the system refuses
    obtain ⟨rfl, rfl⟩ := Prod.mk.inj (hmade.symm.trans hmake)
    obtain ⟨-, hrun⟩ := hends.resolve_left (by simp)
    rw [runOn_bind_of_ok hrun]
    exact ⟨_, rfl, hsame⟩

lemma setLevel_tidies (name : Text) (level : ℤ) : Tidies (setLevel name level) := by
  refine Tidies.record fun j l hl => .inr ?_
  rcases Journal.writesTo_of_set hl with ⟨x, hx, path, hsink⟩ | hl
  · obtain ⟨y, hy, rfl⟩ := List.mem_map.mp hx
    have hlevel : ((j.meet name).setLevel name level).WritesTo l :=
      Journal.writesTo_of_logger hy hsink
    exact Journal.writesTo_of_setLevel hlevel
  · exact Journal.writesTo_of_setLevel hl

/-- A change of the level makes a twin. -/
lemma twins_setLevel (hs : s.Tidy) (name : Text) (level : ℤ) :
    s.Twins true (runOn (setLevel name level) s).2 :=
  Session.twins_of_logs hs (.refl _ _ _) hs.plain (setLevel_tidies name level s hs).1.logs

end TestScaffold.Audit
