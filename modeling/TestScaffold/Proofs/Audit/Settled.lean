import TestScaffold.Proofs.Audit.SettingUp
import TestScaffold.Proofs.Session.Narrating

/-!
Loggers over the whole course of a session.

* A `Turn` is one move, or anything that happens between two moves and leaves the
  journal alone. A course is any number of turns.
* `Journal.Ages` is what a turn may do to the journal: a name that is ready stays so,
  and a logger with a console gets no second one. It is the invariant of a turn
  (`Turn.ages`), and so of a course (`Course.ages`).
* `setUp_settled`: **no logger has two consoles, and what is set up once stays as it
  is.** A set-up that fails is part of a course like any other turn.
-/

namespace TestScaffold

/-! ### The age of a journal -/

namespace Journal

/-- How many handlers of a logger write to the console. -/
def consoles (j : Journal) (name : Text) : ℕ := (j.outlets name).count .console

/-- The second journal comes after the first one: names stay ready, and no logger gets
a second console. -/
structure Ages (j j' : Journal) : Prop where
  ready : ∀ n ∈ j.ready, n ∈ j'.ready
  consoles : ∀ name, j'.consoles name ≤ max 1 (j.consoles name)

namespace Ages

variable {j j' j'' : Journal} {name : Text}

lemma refl (j : Journal) : Ages j j := ⟨fun _ => id, fun _ => le_max_right _ _⟩

/-- What was ready before is ready later, and no handler on the console is lost on the
way. -/
lemma trans (h : Ages j j') (h' : Ages j' j'') : Ages j j'' where
  ready n hn := h'.ready n (h.ready n hn)
  consoles name := (h'.consoles name).trans (max_le (le_max_left _ _) (h.consoles name))

/-- Nothing but levels, names and verdicts is new. -/
lemma of_outlets (hready : ∀ n ∈ j.ready, n ∈ j'.ready) (h : j'.outlets = j.outlets) :
    Ages j j' := by
  refine ⟨hready, fun name => ?_⟩
  rw [Journal.consoles, h]
  exact le_max_right _ _

/-- One logger has other handlers. -/
lemma of_update {l : Logger} (hready : ∀ n ∈ j.ready, n ∈ j'.ready)
    (h : j'.logger = Function.update j.logger name l)
    (hl : (l.handlers.map (·.sink)).count .console ≤ max 1 (j.consoles name)) : Ages j j' := by
  refine ⟨hready, fun m => ?_⟩
  rw [Journal.consoles, outlets_of_update h]
  by_cases hm : m = name
  · subst hm
    rwa [Function.update_self]
  · rw [Function.update_of_ne hm]
    exact le_max_right _ _

/-- A logger with one handler on the console at most gets no second one. -/
lemma le_one (h : Ages j j') (hj : ∀ name, j.consoles name ≤ 1) (name : Text) :
    j'.consoles name ≤ 1 :=
  (h.consoles name).trans (max_le le_rfl (hj name))

end Ages

end Journal

lemma Session.journal_log (s : Session) (r : Record) :
    (s.log r).journal = (s.journal.meet r.logger).decide r.logger r.level := by
  rw [log, foldl_deliver_eq]

namespace Audit

open TestScaffold.Action Journal

variable {s s' s'' : Session} {name n dir : Text} {level : ℤ}

/-! ### Turns -/

/-- A set-up adds a console only to a logger that has no handlers. -/
lemma Equips.ages {r : Except Failure Text} (h : Equips s n level r s') :
    Ages s.journal s'.journal := by
  have hmark : ∀ m ∈ s.journal.ready, m ∈ n :: s.journal.ready := fun _ => List.mem_cons_of_mem n
  cases h with
  | ready => exact .refl _
  | kept => exact .of_outlets hmark (outlets_setLevel (s.journal.meet (loggerName n)) _ level)
  | @made d own _ hnew _ hown =>
      refine .of_update ?_ (logger_made hnew own) ?_
      · intro m hm
        exact List.mem_cons_of_mem n ((ready_addHandlers _ _ own).symm ▸ hm)
      · -- the console comes first, and only a file after it
        rcases hown with rfl | ⟨path, place, rfl⟩ <;> simp
  | failed _ hnew => exact .of_update (fun _ => id) (logger_withConsole hnew) (by simp)

/-- The name of a set-up that returns is ready. -/
lemma Equips.returned {logger : Text} (h : Equips s n level (.ok logger) s') :
    logger = loggerName n ∧ n ∈ s'.journal.ready := by
  cases h with
  | ready hready => exact ⟨rfl, hready⟩
  | kept => exact ⟨rfl, List.mem_cons_self⟩
  | made => exact ⟨rfl, List.mem_cons_self⟩

/-- The three moves that change a journal let it age: a set-up, a log that is attached,
and a record. -/
lemma ages_setUp (name dir : Text) (level : ℤ) (s : Session) :
    Ages s.journal (runOn (setUp name dir level) s).2.journal := by
  obtain ⟨n, hname⟩ := runOn_setUpName name s
  exact (setUp_equips hname dir level).ages

lemma ages_attach (name : Text) (p : Path) (level : ℤ) (s : Session) :
    Ages s.journal (runOn (attach name p level) s).2.journal := by
  have hattaches := attach_attaches name p level s
  generalize (runOn (attach name p level) s).1 = r, (runOn (attach name p level) s).2 = s'
    at hattaches
  cases hattaches with
  | there => exact .of_outlets (fun _ => id) rfl
  | refused => exact .of_outlets (fun _ => id) rfl
  | added =>
      refine .of_update (fun _ => id) (logger_addHandler (s.journal.meet name) name _) ?_
      rw [List.map_append, List.count_append]
      exact le_max_right _ _

/-- One move, or anything that leaves the journal alone. -/
inductive Turn (s : Session) : Session → Prop
  | move (m : Move) : Turn s (m.perform s)
  | aside {s' : Session} (h : s'.journal = s.journal) : Turn s s'

lemma Turn.ages (h : Turn s s') : Ages s.journal s'.journal := by
  cases h with
  | aside h => rw [h]; exact .refl _
  | move m =>
      cases m with
      | setUp name dir level => exact ages_setUp name dir level s
      | meet name => exact .of_outlets (fun _ => id) rfl
      | attach name dir level => exact ages_attach name dir level s
      | setLevel name level => exact .of_outlets (fun _ => id) (Move.outlets_setLevel s name level)
      | log r =>
          refine .of_outlets (fun n hn => ?_) ?_ <;> rw [Move.perform, Session.journal_log]
          · exact hn
          · rfl
      | chdir l => exact .refl _

/-! ### Courses -/

/-- Any number of turns. -/
def Course : Session → Session → Prop := Relation.ReflTransGen Turn

/-- By induction on the moves, a journal ages over a course of any length. -/
lemma Course.ages (h : Course s s') : Ages s.journal s'.journal := by
  induction h with
  | refl => exact .refl _
  | tail _ hturn ih => exact ih.trans hturn.ages

/-- **The loggers over the whole course of a session.** If at first no logger has two
consoles, none ever has. Once a set-up has returned, every later one of the same name
returns the same logger and changes nothing at all, whatever directory and level it is
called with. -/
theorem setUp_settled (hstart : ∀ m, s.journal.consoles m ≤ 1) (hcourse : Course s s') :
    (∀ m, s'.journal.consoles m ≤ 1) ∧
      ∀ name n dir level logger s₁, Resolves s' name n →
        runOn (setUp name dir level) s' = (.ok logger, s₁) →
        ∀ s₂, Course s₁ s₂ → (∀ m, s₂.journal.consoles m ≤ 1) ∧
          ∀ name' dir' level', Resolves s₂ name' n →
            runOn (setUp name' dir' level') s₂ = (.ok logger, s₂) := by
  have hnow := hcourse.ages.le_one hstart
  refine ⟨hnow, fun name n dir level logger s₁ hname hrun s₂ hlater => ⟨?_, ?_⟩⟩
  · have hequips := setUp_equips hname dir level
    rw [hrun] at hequips
    exact (hequips.ages.trans hlater.ages).le_one hnow
  · intro name' dir' level' hname'
    have hequips := setUp_equips hname dir level
    rw [hrun] at hequips
    obtain ⟨rfl, hready⟩ := hequips.returned
    exact runOn_setUp_of_ready hname' (hlater.ages.ready n hready) dir' level'

/-- The session in which the set-up has failed, and another directory is named since. -/
def otherDir : Session :=
  { (Move.setUp mainLogger [] Level.info).perform fileForLogs with logDirVar := some "logs".toText }

lemma fileForLogs_course : Course fileForLogs otherDir := by
  have hfails : Course fileForLogs ((Move.setUp mainLogger [] Level.info).perform fileForLogs) :=
    .single (.move _)
  exact hfails.tail (.aside rfl)

lemma fileForLogs_consoles (m : Text) : fileForLogs.journal.consoles m ≤ 1 := by
  have hnone : Sink.console ∉ fileForLogs.journal.outlets m := fun h =>
    absurd (mem_outlets_start h) (by simp)
  rw [consoles, List.count_eq_zero_of_not_mem hnone]
  exact Nat.zero_le 1

/-- A set-up that fails, and one that returns; after it the level is changed, and one more
set-up leaves it so. -/
theorem setUp_settled_fileForLogs :
    let s₁ := (runOn (setUp mainLogger [] Level.info) otherDir).2
    let s₂ := (Move.setLevel mainLogger Level.debug).perform s₁
    (∀ m, fileForLogs.journal.consoles m ≤ 1) ∧ Course fileForLogs otherDir ∧
      (∀ m, s₂.journal.consoles m ≤ 1) ∧
      runOn (setUp mainLogger "logs".toText Level.error) s₂ = (.ok mainLogger, s₂) := by
  intro s₁ s₂
  have hrun : runOn (setUp mainLogger [] Level.info) otherDir = (.ok mainLogger, s₁) :=
    Prod.ext (by decide +kernel) rfl
  have hlater : Course s₁ s₂ := .single (.move (.setLevel mainLogger Level.debug))
  obtain ⟨hone, hstays⟩ := (setUp_settled fileForLogs_consoles fileForLogs_course).2 mainLogger
    mainLogger [] Level.info mainLogger s₁ rfl hrun s₂ hlater
  exact ⟨fileForLogs_consoles, fileForLogs_course, hone,
    hstays mainLogger "logs".toText Level.error rfl⟩

end Audit

end TestScaffold
