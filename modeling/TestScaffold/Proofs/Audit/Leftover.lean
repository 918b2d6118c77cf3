import TestScaffold.Proofs.Audit.SettingUp

/-!
What a set-up that has failed leaves to the next one.

The level is set and the console added before anything can fail, and a logger with
handlers is taken for one that is set up. So the next set-up, whatever has changed
since, has nothing more to do.

* `setUp_leaves`: **what is left by a set-up that fails, and what becomes of the next
  one**, beside what would have become of it without the first. The two agree exactly
  if no log would have been attached.
* `setUp_forgets_log`: where one would have been, it is lost.
-/

namespace TestScaffold

namespace Audit

open TestScaffold.Action

variable {s s' t : Session} {name n dir : Text} {level : ℤ} {f : Failure}

/-- The name of a set-up does not depend on the journal. -/
lemma Resolves.withJournal (h : Resolves t name n) (j : Journal) :
    Resolves { t with journal := j } name n := by
  unfold Resolves setUpName at h ⊢
  split at h
  · next hmain =>
      rw [if_pos hmain]
      rw [runOn_get_bind] at h ⊢
      dsimp only
      split at h
      · next harguments =>
          rw [harguments]
          exact Prod.ext (Prod.mk.inj h).1 rfl
      · next harguments =>
          rw [harguments]
          exact Prod.ext (Prod.mk.inj h).1 rfl
  · next hmain =>
      rw [if_neg hmain]
      exact Prod.ext (Prod.mk.inj h).1 rfl

/-- The second journal has the loggers of the first one, but for the logger, which has
the level, the console, and the given handlers after it. -/
def Equipped (j j' : Journal) (logger : Text) (level : ℤ) (own : List Handler) : Prop :=
  j'.logger = Function.update j.logger logger ⟨level, ⟨.console, Level.warning⟩ :: own⟩

/-- Of two journals with the logger at the same level, the loggers are the same exactly if the
handlers are. -/
lemma Equipped.logger_eq_iff {j j₁ j₂ : Journal} {logger : Text} {own₁ own₂ : List Handler}
    (h₁ : Equipped j j₁ logger level own₁) (h₂ : Equipped j j₂ logger level own₂) :
    j₁.logger = j₂.logger ↔ own₁ = own₂ := by
  rw [h₁, h₂, (Function.update_injective _ _).eq_iff]
  simp

/-- What a set-up leaves that fails. -/
lemma leaves_of_error (hname : Resolves s name n)
    (hfails : runOn (setUp name dir level) s = (.error f, s')) :
    n ∉ s.journal.ready ∧ (s.journal.logger (loggerName n)).handlers = [] ∧
      s'.journal = withConsole s.journal (loggerName n) level := by
  have hequips := setUp_equips hname dir level
  rw [hfails] at hequips
  cases hequips with
  | failed hready hnew => exact ⟨hready, hnew, rfl⟩

/-- The set-up of a logger that has only the console. -/
lemma exists_again {j : Journal} {before : ℤ} (hname : Resolves t name n) (hready : n ∉ j.ready)
    (hnew : (j.logger (loggerName n)).handlers = []) (dir : Text) (level : ℤ) :
    ∃ j', runOn (setUp name dir level)
        { t with journal := withConsole j (loggerName n) before } =
          (.ok (loggerName n), { t with journal := j' }) ∧
      n ∈ j'.ready ∧ Equipped j j' (loggerName n) level [] := by
  set left : Session := { t with journal := withConsole j (loggerName n) before } with hleft
  have hlogger : left.journal.logger = _ := logger_withConsole hnew
  have hhas : (left.journal.logger (loggerName n)).handlers ≠ [] := by
    simp [hlogger]
  have hrun := runOn_setUp_of_handlers (hname.withJournal left.journal) hready hhas dir level
  refine ⟨_, hrun, List.mem_cons_self, ?_⟩
  have hlevel := Journal.logger_setLevel (left.journal.meet (loggerName n)) (loggerName n) level
  have hmeet : (left.journal.meet (loggerName n)).logger = left.journal.logger := rfl
  rw [hmeet, hlogger] at hlevel
  refine hlevel.trans ?_
  simp

/-- The set-up of a logger that is new. -/
lemma equipped_of_ok {logger : Text} (hname : Resolves s name n) (hready : n ∉ s.journal.ready)
    (hnew : (s.journal.logger (loggerName n)).handlers = [])
    (hrun : runOn (setUp name dir level) s = (.ok logger, s')) :
    ∃ own, (own = [] ∨ ∃ path place, own = [⟨.file path place, level⟩]) ∧
      Equipped s.journal s'.journal (loggerName n) level own := by
  have hequips := setUp_equips hname dir level
  rw [hrun] at hequips
  cases hequips with
  | ready h => exact absurd h hready
  | kept _ h => exact absurd hnew h
  | made _ _ _ hown => exact ⟨_, hown, logger_made hnew _⟩

/-- **What a set-up leaves that fails, and what becomes of the next one.** The logger is
left with the level and the console. Whatever has changed since, the next set-up of the
same name returns at once: it looks for no log, and gives the logger nothing but a level.
Without the first set-up, if it returns then, the logger has the log as well that could be
opened; so the first one makes no difference exactly if there is none. -/
theorem setUp_leaves (hname : Resolves s name n)
    (hfails : runOn (setUp name dir level) s = (.error f, s')) :
    (n ∉ s.journal.ready ∧ s'.journal.ready = s.journal.ready ∧
        (s.journal.logger (loggerName n)).handlers = [] ∧
        Equipped s.journal s'.journal (loggerName n) level []) ∧
      ∀ t name' dir' level', Resolves t name' n → ∃ j,
        runOn (setUp name' dir' level') { t with journal := s'.journal } =
            (.ok (loggerName n), { t with journal := j }) ∧
          n ∈ j.ready ∧ Equipped s.journal j (loggerName n) level' [] ∧
          ∀ logger t', runOn (setUp name' dir' level') { t with journal := s.journal } =
              (.ok logger, t') → ∃ own,
            (own = [] ∨ ∃ path place, own = [⟨.file path place, level'⟩]) ∧
              Equipped s.journal t'.journal (loggerName n) level' own ∧
              (j.logger = t'.journal.logger ↔ own = []) := by
  obtain ⟨hready, hnew, hleft⟩ := leaves_of_error hname hfails
  rw [hleft]
  refine ⟨⟨hready, rfl, hnew, logger_withConsole hnew⟩, fun t name' dir' level' hname' => ?_⟩
  obtain ⟨j, hagain, hj, honly⟩ := exists_again hname' hready hnew dir' level'
  refine ⟨j, hagain, hj, honly, fun logger t' hanew => ?_⟩
  obtain ⟨own, hown, hequipped⟩ :=
    equipped_of_ok (hname'.withJournal s.journal) hready hnew hanew
  refine ⟨own, hown, hequipped, ?_⟩
  rw [honly.logger_eq_iff hequipped]
  exact eq_comm

/-- The environment names another directory for the logs. -/
def logsNamed (s : Session) : Session := { s with logDirVar := some "logs".toText }

/-- **A set-up that fails costs the next one its log**: the environment names another
directory, and the logger does not get the log in it that it would have got. -/
theorem setUp_forgets_log :
    let s' := (runOn (setUp mainLogger [] Level.info) fileForLogs).2
    let again := (runOn (setUp mainLogger [] Level.info) (logsNamed s')).2
    let anew := (runOn (setUp mainLogger [] Level.info) (logsNamed fileForLogs)).2
    s'.journal.logger mainLogger ≠ fileForLogs.journal.logger mainLogger ∧
      again.journal.logger mainLogger = ⟨Level.info, [⟨.console, Level.warning⟩]⟩ ∧
      anew.journal.logger mainLogger = ⟨Level.info, [⟨.console, Level.warning⟩,
        ⟨.file "/logs/utgen-audit.log".toText [fileName, "logs".toText], Level.info⟩]⟩ := by
  decide +kernel

/-- The set-up fails where a file is in the place of the directory. -/
theorem setUp_leaves_fileForLogs :
    Resolves fileForLogs mainLogger mainLogger ∧
      ∃ f s', runOn (setUp mainLogger [] Level.info) fileForLogs = (.error f, s') ∧
        Equipped fileForLogs.journal s'.journal mainLogger Level.info [] := by
  have hrun : runOn (setUp mainLogger [] Level.info) fileForLogs =
      (.error (.system ⟨.exists, some "f".toText⟩),
        (runOn (setUp mainLogger [] Level.info) fileForLogs).2) :=
    Prod.ext (by decide +kernel) rfl
  have hname : Resolves fileForLogs mainLogger mainLogger := rfl
  exact ⟨hname, _, _, hrun, (setUp_leaves hname hrun).1.2.2.2⟩

end Audit

end TestScaffold
