import TestScaffold.Proofs.Audit.Ending

/-!
What the set-up of a logger leaves behind, in every session.

* A logger is made once (`Lineage.meet_meet`), so attaching a log to a logger that has
  been set up changes the journal by one handler, or not at all.
* `Equips` are the ways in which a set-up ends, with all that it leaves.
  `setUp_equips` says that there are no others.
-/

namespace TestScaffold

/-! ### Loggers that have been made -/

namespace Lineage

variable {x : Lineage} {name above : Text}

lemma lookup_put_self (x : Lineage) (name : Text) (k : Kin) :
    (x.put name k).kin.lookup name = some k := by
  simp [put]

lemma meet_of_made (h : x.kin.lookup name = some (.made above)) : x.meet name = x := by
  rw [meet, h]
  exact ite_self x

/-- A logger that was met is made. It may have stood for nothing before, as a name between
two others. -/
lemma exists_made (x : Lineage) (hroot : name ≠ rootLogger) :
    ∃ above, (x.meet name).kin.lookup name = some (.made above) := by
  cases hlook : x.kin.lookup name with
  | none =>
      rw [meet, if_neg hroot, hlook]
      exact ⟨_, lookup_put_self _ name _⟩
  | some k =>
      cases k with
      | made above => exact ⟨above, by rw [meet_of_made hlook, hlook]⟩
      | awaited below =>
          rw [meet, if_neg hroot, hlook]
          exact ⟨_, lookup_put_self _ name _⟩

/-- A logger is made once. -/
lemma meet_meet (x : Lineage) (name : Text) : (x.meet name).meet name = x.meet name := by
  by_cases hroot : name = rootLogger
  · exact if_pos hroot
  · obtain ⟨above, habove⟩ := x.exists_made hroot
    exact meet_of_made habove

end Lineage

namespace Audit

open TestScaffold.Action

variable {s s' : Session} {name n dir : Text} {level : ℤ} {f : Failure}

lemma meet_withConsole (j : Journal) (logger : Text) (level : ℤ) :
    (withConsole j logger level).meet logger = withConsole j logger level :=
  congrArg (fun x => { withConsole j logger level with tree := x }) (j.tree.meet_meet logger)

/-! ### Loggers after a change -/

section Journal

variable {j : Journal} {logger : Text}

/-- A new logger gets the level, and the console as its first handler. -/
lemma logger_withConsole (hnew : (j.logger logger).handlers = []) :
    (withConsole j logger level).logger =
      Function.update j.logger logger ⟨level, [⟨.console, Level.warning⟩]⟩ := by
  rw [withConsole, Journal.logger_addHandler, Journal.logger_setLevel]
  simp only [Function.update_self, Function.update_idem]
  exact congrArg (fun hs => Function.update j.logger logger ⟨level, hs ++ _⟩) hnew

/-- Handlers added one after the other. -/
lemma logger_addHandlers (j : Journal) (logger : Text) (own : List Handler) :
    (own.foldl (·.addHandler logger) j).logger =
      Function.update j.logger logger
        ⟨(j.logger logger).level, (j.logger logger).handlers ++ own⟩ := by
  induction own generalizing j with
  | nil => simp
  | cons h own ih =>
      rw [List.foldl_cons, ih, Journal.logger_addHandler]
      simp

lemma ready_addHandlers (j : Journal) (logger : Text) (own : List Handler) :
    (own.foldl (·.addHandler logger) j).ready = j.ready := by
  induction own generalizing j with
  | nil => rfl
  | cons h own ih => exact ih _

/-- The logger is new, and has been set up. -/
lemma logger_made (hnew : (j.logger logger).handlers = []) (own : List Handler) :
    (own.foldl (·.addHandler logger) (withConsole j logger level)).logger =
      Function.update j.logger logger ⟨level, ⟨.console, Level.warning⟩ :: own⟩ := by
  rw [logger_addHandlers, logger_withConsole hnew]
  simp

end Journal

/-! ### The ways to end -/

/-- A set-up under this name is one under the other name. -/
def Resolves (s : Session) (name n : Text) : Prop := runOn (setUpName name) s = (.ok n, s)

/-- The ways in which a set-up ends, with what it leaves. -/
inductive Equips (s : Session) (n : Text) (level : ℤ) : Except Failure Text → Session → Prop
  /-- It has been set up. -/
  | ready (hready : n ∈ s.journal.ready) : Equips s n level (.ok (loggerName n)) s
  /-- The logger has handlers, and gets the level. -/
  | kept (hready : n ∉ s.journal.ready) (hhas : (s.journal.logger (loggerName n)).handlers ≠ []) :
      Equips s n level (.ok (loggerName n)) { s with journal :=
        ((s.journal.meet (loggerName n)).setLevel (loggerName n) level).markReady n }
  /-- The logger gets the level, the console, and perhaps a log. -/
  | made {d : Disk} {own : List Handler} (hready : n ∉ s.journal.ready)
      (hnew : (s.journal.logger (loggerName n)).handlers = []) (hadds : s.disk.Adds d)
      (hown : own = [] ∨ ∃ path place, own = [⟨.file path place, level⟩]) :
      Equips s n level (.ok (loggerName n)) { s with
        disk := d
        journal := (own.foldl (·.addHandler (loggerName n))
          (withConsole s.journal (loggerName n) level)).markReady n }
  /-- The logger has got the level and the console, and something has failed then. -/
  | failed {d : Disk} {f : Failure} (hready : n ∉ s.journal.ready)
      (hnew : (s.journal.logger (loggerName n)).handlers = []) (hadds : s.disk.Adds d) :
      Equips s n level (.error f)
        { s with disk := d, journal := withConsole s.journal (loggerName n) level }

lemma chooseDir_onlyMakes (dir : Text) : OnlyMakes (chooseDir dir) :=
  .ite (findLogDir_onlyMakes []) (.pure _)

/-- A set-up that has attached its log is remembered. -/
lemma runOn_conclude_of_ok {p : Path} {x : Option Path}
    (h : runOn (attach (loggerName n) p level) s = (.ok x, s')) :
    runOn (conclude n level (some p)) s =
      (.ok (loggerName n), { s' with journal := s'.journal.markReady n }) :=
  runOn_bind_of_ok ((runOn_discard_eq_ok (u := ())).mpr ⟨x, h⟩) _

/-- A set-up that fails is not. -/
lemma runOn_conclude_of_error {p : Path}
    (h : runOn (attach (loggerName n) p level) s = (.error f, s')) :
    runOn (conclude n level (some p)) s = (.error f, s') :=
  runOn_bind_of_error (runOn_discard_eq_error.mpr h) _

/-- The end of the set-up of a new logger, in the session that the search for the directory
has left. -/
lemma conclude_equips {d : Disk} (hready : n ∉ s.journal.ready)
    (hnew : (s.journal.logger (loggerName n)).handlers = []) (hadds : s.disk.Adds d)
    (found : Option Path) :
    let t := { s with disk := d, journal := withConsole s.journal (loggerName n) level }
    Equips s n level (runOn (conclude n level found) t).1 (runOn (conclude n level found) t).2 := by
  intro t
  cases found with
  | none => exact .made hready hnew hadds (.inl rfl)
  | some p =>
      have hmeet : t.journal.meet (loggerName n) = t.journal := meet_withConsole _ _ _
      have hattaches := attach_attaches (loggerName n) p level t
      rcases hrun : runOn (attach (loggerName n) p level) t with ⟨f | x, t'⟩
      · rw [hrun] at hattaches
        rw [runOn_conclude_of_error hrun]
        cases hattaches with
        | refused _ hadds' =>
            rw [hmeet]
            exact .failed hready hnew (hadds.trans hadds')
      · rw [hrun] at hattaches
        rw [runOn_conclude_of_ok hrun]
        cases hattaches with
        | there =>
            rw [hmeet]
            exact .made hready hnew hadds (.inl rfl)
        | refused _ hadds' =>
            rw [hmeet]
            exact .made hready hnew (hadds.trans hadds') (.inl rfl)
        | added _ hopens =>
            rw [hmeet]
            exact .made hready hnew (hadds.trans hopens.adds.1) (.inr ⟨_, _, rfl⟩)

/-- **The ways in which a set-up ends.** -/
theorem setUp_equips (hname : Resolves s name n) (dir : Text) (level : ℤ) :
    Equips s n level (runOn (setUp name dir level) s).1 (runOn (setUp name dir level) s).2 := by
  by_cases hready : n ∈ s.journal.ready
  · rw [runOn_setUp_of_ready hname hready]
    exact .ready hready
  by_cases hnew : (s.journal.logger (loggerName n)).handlers = []
  swap
  · rw [runOn_setUp_of_handlers hname hready hnew]
    exact .kept hready hnew
  rw [runOn_setUp_of_new hname hready hnew]
  set t : Session := { s with journal := withConsole s.journal (loggerName n) level } with ht
  obtain ⟨d, hadds, hd⟩ := chooseDir_onlyMakes dir t
  rcases hrun : runOn (chooseDir dir) t with ⟨f | found, t'⟩
  · rw [hrun] at hd
    obtain rfl : t' = { t with disk := d } := hd
    rw [runOn_bind_of_error hrun]
    exact .failed hready hnew hadds
  · rw [hrun] at hd
    obtain rfl : t' = { t with disk := d } := hd
    rw [runOn_bind_of_ok hrun]
    exact conclude_equips hready hnew hadds found

end Audit

end TestScaffold
