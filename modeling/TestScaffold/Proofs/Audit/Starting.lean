import TestScaffold.Proofs.Audit.Attaching
import TestScaffold.Proofs.Journal.Tuned

/-!
The journal at the start of a run.

* `Session.Begins` is a session before a run: all its loggers are there, nothing
  has been done to them, and the root collects the records.
* `Session.Readied` says that a session was made ready for a run: the disk was
  added to, and the main logger has got its level and its handlers.
* `setUp_readies`: the set-up leaves the console with its warnings, and at most
  one log. `attach_readies`: one more log at most is attached.
-/

namespace TestScaffold

namespace Session

/-- The session before a run, with a root that collects all records. -/
def Begins (s : Session) : Prop :=
  ∃ level, s.journal = .start ⟨level, [⟨.collection, 0⟩]⟩ Generator.loggers

/-- The disk was added to, the journal is now that of a run with the level and
the handlers, and nothing else was changed. -/
structure Readied (s : Session) (level : ℤ) (hs : List Handler) (s' : Session) : Prop where
  adds : s.disk.Adds s'.disk
  tuned : s'.journal.Tuned level hs
  rest : s' = { s with disk := s'.disk, journal := s'.journal }

lemma Readied.trans {s s' s'' : Session} {level level' : ℤ} {hs hs' : List Handler}
    (h : s.Readied level hs s') (h' : s'.Readied level' hs' s'') : s.Readied level' hs' s'' where
  adds := h.adds.trans h'.adds
  tuned := h'.tuned
  rest := by rw [h'.rest, h.rest]

/-- The handler writes to a file that there is on the disk. -/
def HasFile (s : Session) (h : Handler) : Prop :=
  ∃ path place bs, h.sink = .file path place ∧ s.disk.get? place = some (.file bs)

end Session

namespace Audit

open TestScaffold.Action

variable {s s' : Session} {level : ℤ} {hs : List Handler} {dir : Path} {l : ℤ}

/-- What a logger with some handlers gets when the log of a directory is attached
to it: nothing if the log is refused or if one of the handlers has it, and
otherwise the log. -/
inductive Gets (s : Session) (hs : List Handler) (dir : Path) (l : ℤ) (d' : Disk) :
    Option Path → List Handler → Prop
  | refused : Gets s hs dir l d' none []
  | there {x p : _} (hp : p ∈ hs.filterMap (·.path?))
      (hplace : s.disk.canonical s.here (logPath dir).toText = .ok (Path.ofText p)) :
      Gets s hs dir l d' (some x) []
  | opened {x place : _} (hopens : OpensAt s dir d' place) :
      Gets s hs dir l d' (some x) [⟨.file (openedAt s.here dir) place, l⟩]

/-- **What attaching a log does to the journal of a run.** -/
theorem attach_readies {x : Option Path} (ht : s.journal.Tuned level hs)
    (h : runOn (attach mainLogger dir l) s = (.ok x, s')) :
    ∃ own, s.Readied level (hs ++ own) s' ∧ Gets s hs dir l s'.disk x own := by
  have hmeet : s.journal.meet mainLogger = s.journal := ht.meet (by simp [Generator.loggers])
  have hattaches := attach_attaches mainLogger dir l s
  rw [h] at hattaches
  generalize hr : Except.ok x = r at hattaches
  cases hattaches with
  | there hp hplace =>
      obtain rfl := Except.ok.inj hr
      rw [hmeet, ht.main] at hp
      rw [hmeet]
      exact ⟨[], ⟨.refl _, by simpa using ht, rfl⟩, .there hp hplace⟩
  | @refused _ d hne hadds =>
      rw [hmeet]
      have hnone : x = none := by
        cases x with
        | none => rfl
        | some p => exact absurd hr.symm (hne p)
      exact ⟨[], ⟨hadds, by simpa using ht, rfl⟩, hnone ▸ .refused⟩
  | @added d' place hnew hopens =>
      obtain rfl := Except.ok.inj hr
      rw [hmeet]
      exact ⟨_, ⟨hopens.adds.1, ht.addHandler (by simp), rfl⟩, .opened hopens⟩

namespace Gets

variable {x : Option Path} {own : List Handler} {d' : Disk}

lemma length_le (h : Gets s hs dir l d' x own) : own.length ≤ 1 := by
  cases h <;> simp

lemma of_mem (h : Gets s hs dir l d' x own) : ∀ y ∈ own, y.level = l ∧ y.sink.isFile := by
  cases h <;> simp [Sink.isFile]

/-- A log that is attached stands where a file is. -/
lemma hasFile (h : Gets s hs dir l s'.disk x own) (htree : s.disk.IsTree)
    (hhere : s.disk.get? s.here = some .dir) : ∀ y ∈ own, s'.HasFile y := by
  cases h with
  | refused => simp
  | there hp hplace => simp
  | @opened _ place hopens =>
      obtain ⟨bs, hbs⟩ := hopens.adds.2 htree hhere
      simpa using ⟨_, place, bs, rfl, hbs⟩

end Gets

/-- The level of the main logger and of all its handlers is changed. -/
lemma setLevel_readies (ht : s.journal.Tuned level hs) (hl : 0 < l) :
    s.Readied l (hs.map fun h => { h with level := l }) (runOn (setLevel mainLogger l) s).2 := by
  have hset : s.journal.setLevel mainLogger l =
      { s.journal.set mainLogger ⟨l, hs⟩ with verdicts := [] } := by
    rw [Journal.setLevel, ht.main]
  have hlevel : (s.journal.setLevel mainLogger l).Tuned l hs := by
    rw [hset]
    exact ht.retune hl ht.apart
  have hall : ({ (s.journal.setLevel mainLogger l).set mainLogger
      ⟨l, hs.map fun h => { h with level := l }⟩ with verdicts := [] } : Journal).Tuned l
        (hs.map fun h => { h with level := l }) :=
    hlevel.retune hl (by simpa using ht.apart)
  refine ⟨.refl _, ?_, rfl⟩
  change ((s.journal.meet mainLogger).setLevel mainLogger l |>.set mainLogger _).Tuned l _
  rw [ht.meet (by simp [Generator.loggers]), hlevel.main]
  exact hall

/-- One more name whose set-up is complete makes no difference to records. -/
lemma markReady_tuned {j : Journal} (h : j.Tuned level hs) (name : Text) :
    (j.markReady name).Tuned level hs :=
  { h with verdicts := h.verdicts }

/-- **The set-up of a run.** The console has the warnings, and at most one log is
attached, that of the directory that was found. -/
theorem setUp_readies {name : Text} (hb : s.Begins)
    (h : runOn (setUp mainLogger [] Level.info) s = (.ok name, s')) :
    ∃ logs : List Handler, s.Readied Level.info (⟨.console, Level.warning⟩ :: logs) s' ∧
      logs.length ≤ 1 ∧ (∀ x ∈ logs, x.level = Level.info ∧ x.sink.isFile) ∧
      (s.disk.IsTree → s.disk.get? s.here = some .dir → ∀ x ∈ logs, s'.HasFile x) := by
  obtain ⟨root, hj⟩ := hb
  have hname : runOn (setUpName mainLogger) s = (.ok mainLogger, s) := rfl
  have hmeet : s.journal.meet mainLogger = s.journal :=
    Journal.meet_of_tree (by rw [hj]; rfl) (by simp [Generator.loggers])
  have hready : mainLogger ∉ s.journal.ready := by
    rw [hj]
    exact List.not_mem_nil
  have hlevel : (s.journal.setLevel mainLogger Level.info).Tuned Level.info [] := by
    rw [hj]
    exact .setLevel_start Level.info_pos
  have hconsole := hlevel.addHandler (x := ⟨.console, Level.warning⟩) (by simp)
  -- a run begins with a logger that is new, so that the set-up goes through all its steps
  rw [setUp, runOn_bind_of_ok hname, runOn_get_bind] at h
  change runOn (if mainLogger ∈ s.journal.ready then _ else _) s = _ at h
  rw [if_neg hready, runOn_record_bind, runOn_get_bind,
    show loggerName mainLogger = mainLogger from rfl, hmeet, if_neg (by simp [hlevel.main]),
    runOn_record_bind, if_pos rfl] at h
  obtain ⟨found, s₁, hfound, h⟩ := runOn_bind_eq_ok.mp h
  obtain ⟨d, hadds, hd⟩ := findLogDir_onlyMakes [] _
  rw [hfound] at hd
  obtain rfl := hd
  cases found with
  | none =>
      obtain ⟨-, rfl⟩ := Prod.mk.inj h
      exact ⟨[], ⟨hadds, markReady_tuned hconsole _, rfl⟩, by simp⟩
  | some dir =>
      obtain ⟨_, s₂, hattach, h⟩ := runOn_bind_eq_ok.mp h
      obtain ⟨x, hattach⟩ := runOn_discard_eq_ok.mp hattach
      obtain ⟨-, rfl⟩ := Prod.mk.inj h
      obtain ⟨logs, hready, hlogs⟩ := attach_readies hconsole hattach
      refine ⟨logs, ⟨hadds.trans hready.adds, markReady_tuned hready.tuned _, ?_⟩,
        hlogs.length_le, hlogs.of_mem, fun htree hhere => ?_⟩
      · rw [hready.rest]
      · exact hlogs.hasFile (hadds.isTree htree) (hadds.get?_of_some hhere)

end Audit

end TestScaffold
