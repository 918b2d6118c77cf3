import TestScaffold.Proofs.Audit.Starting
import TestScaffold.Proofs.Session.Narrating
import TestScaffold.Watch

/-!
What a watched run tells of its body.

* `runOn_watch_eq`: a watched run whose set-up succeeds is the body between two
  records, with a record of a failure before the second one. The second one is
  left out if the exit value is a number that cannot be written.
* `Action.Ignores` are the actions that do not care about arguments and records.
  The set-up is one (`setUp_ignores`), so it makes no record of its own.
* `Journal.Collects` is a journal that collects the records of a watched run, each
  one once. It goes on to do so when it gets one of them (`Collects.log`).
* `succeeds` says by the convention for exit statuses which outcomes are successes,
  and `exitValue_saysWell_iff` which of them have an exit value that says so.
* `watch_tells` puts it together.
-/

namespace TestScaffold

open TestScaffold.Action
open Audit (mainLogger)

variable {α β : Type} {s s₁ s₂ : Session}

/-! ### The records of a run -/

@[simp] lemma Action.runOn_attempt (m : Action α) :
    runOn (attempt m) s = (.ok (runOn m s).1, (runOn m s).2) := by
  rfl

/-- The record of the start of a run. -/
def Session.startRecord (s : Session) : Record :=
  ⟨mainLogger, Level.info, Watch.startMessage (s.arguments.drop 1) s.herePath⟩

/-- The record of a failure. -/
def Failure.record (f : Failure) : Record :=
  ⟨mainLogger, Level.error, Watch.failureMessage f⟩

/-- The record of the end of a run. -/
def Session.endRecord (s : Session) (exit : Text) : Record :=
  ⟨mainLogger, Level.info, Watch.endMessage exit s.elapsed⟩

/-- The session after the outcome of a watched run has been recorded. -/
def Session.recordOutcome (s : Session) : Except Failure α → Session
  | .ok _ => s
  | .error f => if f.isError then s.log f.record else s

/-- **A watched run** whose set-up succeeds. -/
theorem runOn_watch_eq {name : Text} {outcome : Except Failure α} (status : α → Status)
    {body : Action α} (hsetUp : runOn (Audit.setUp mainLogger [] Level.info) s = (.ok name, s₁))
    (hbody : runOn body (s₁.log s₁.startRecord) = (outcome, s₂)) :
    runOn (watch status body) s =
      if exitIsWritable (outcome.map status) then
        (outcome, (s₂.recordOutcome outcome).log
          ((s₂.recordOutcome outcome).endRecord (exitValue (outcome.map status))))
      else (.error .numberTooLong, s₂.recordOutcome outcome) := by
  have hdiscard : runOn (discard (Audit.setUp mainLogger [] Level.info)) s = (.ok (), s₁) :=
    runOn_discard_eq_ok.mpr ⟨name, hsetUp⟩
  have hattempt : runOn (attempt body) (s₁.log s₁.startRecord) = (.ok outcome, s₂) := by
    rw [runOn_attempt, hbody]
  rw [watch, runOn_bind_of_ok hdiscard, runOn_get_bind, runOn_log_bind]
  change runOn (attempt body >>= _) (s₁.log s₁.startRecord) = _
  rw [runOn_bind_of_ok hattempt]
  cases outcome with
  | ok a =>
      dsimp only
      split <;> rfl
  | error f =>
      dsimp only [Session.recordOutcome]
      split <;> split <;> rfl

/-- So it is the run between two records, if its exit value can be written. -/
theorem runOn_watch {name : Text} {outcome : Except Failure α} (status : α → Status)
    {body : Action α} (hsetUp : runOn (Audit.setUp mainLogger [] Level.info) s = (.ok name, s₁))
    (hbody : runOn body (s₁.log s₁.startRecord) = (outcome, s₂))
    (hexit : exitIsWritable (outcome.map status) = true) :
    runOn (watch status body) s =
      (outcome, (s₂.recordOutcome outcome).log
        ((s₂.recordOutcome outcome).endRecord (exitValue (outcome.map status)))) := by
  rw [runOn_watch_eq status hsetUp hbody, if_pos hexit]

/-! ### The set-up makes no records -/

namespace Session

/-- The session with other arguments and other records. -/
def relabel (s : Session) (args : List Text) (rs : List Record) : Session :=
  { s with arguments := args, records := rs }

end Session

namespace Action

/-- The action does not care about the arguments and the records so far, and leaves
them as they are. -/
def Ignores (m : Action α) : Prop :=
  ∀ s args rs, runOn m (s.relabel args rs) = ((runOn m s).1, (runOn m s).2.relabel args rs)

namespace Ignores

lemma pure (a : α) : Ignores (pure a : Action α) := fun _ _ _ => rfl

lemma throw (e : Failure) : Ignores (throw e : Action α) := fun _ _ _ => rfl

lemma look (f : Disk → Location → α) : Ignores (Action.look f) := fun _ _ _ => rfl

lemma herePath : Ignores Action.herePath := fun _ _ _ => rfl

lemma host : Ignores Action.host := fun _ _ _ => rfl

lemma record (f : Journal → Journal) : Ignores (Action.record f) := fun _ _ _ => rfl

lemma changeMost (f : Disk → Location → Except AccessError Unit × Disk) :
    Ignores (Action.changeMost f) := fun _ _ _ => rfl

lemma change (f : Disk → Location → Except AccessError Disk) : Ignores (Action.change f) := by
  intro s args rs
  cases h : f s.disk s.here with
  | error e =>
      rw [runOn_change_of_error h, runOn_change_of_error (s := s.relabel args rs) h]
  | ok d =>
      rw [runOn_change_of_ok h, runOn_change_of_ok (s := s.relabel args rs) h]
      rfl

lemma changeFor (f : Disk → Location → Except AccessError (Disk × α)) :
    Ignores (Action.changeFor f) := by
  intro s args rs
  cases h : f s.disk s.here with
  | error e =>
      rw [runOn_changeFor_of_error h, runOn_changeFor_of_error (s := s.relabel args rs) h]
  | ok x =>
      rw [runOn_changeFor_of_ok h, runOn_changeFor_of_ok (s := s.relabel args rs) h]
      rfl

lemma ofAccess (x : Except AccessError α) : Ignores (Action.ofAccess x) := by
  cases x with
  | ok a => exact pure a
  | error e => exact throw _

/-- An action that looks at neither goes on with one that does not either. -/
lemma bind {m : Action α} {f : α → Action β} (hm : Ignores m) (hf : ∀ a, Ignores (f a)) :
    Ignores (m >>= f) := by
  intro s args rs
  rcases h : runOn m s with ⟨e | a, s'⟩
  · have hlabel := hm s args rs
    rw [h] at hlabel
    rw [runOn_bind_of_error h, runOn_bind_of_error hlabel]
  · have hlabel := hm s args rs
    rw [h] at hlabel
    rw [runOn_bind_of_ok h, runOn_bind_of_ok hlabel]
    exact hf a s' args rs

/-- What comes after a look at the session is the same action for both. -/
lemma get_bind {f : Session → Action α} (hsame : ∀ s args rs, f (s.relabel args rs) = f s)
    (hf : ∀ s, Ignores (f s)) : Ignores (get >>= f) := by
  intro s args rs
  rw [runOn_get_bind, runOn_get_bind, hsame]
  exact hf s s args rs

lemma ite {c : Prop} [Decidable c] {m n : Action α} (hm : Ignores m) (hn : Ignores n) :
    Ignores (if c then m else n) := by
  split
  · exact hm
  · exact hn

lemma discard {m : Action α} (hm : Ignores m) : Ignores (Functor.discard m) := by
  rw [discard_eq_bind]
  exact hm.bind fun _ => pure _

/-- It makes no records. -/
lemma records_eq {m : Action α} (hm : Ignores m) (s : Session) :
    (runOn m s).2.records = s.records := by
  have h := congrArg (fun r => r.2.records) (hm s s.arguments s.records)
  exact h

end Ignores

end Action

namespace Audit

lemma canonical_ignores (path : Text) : Ignores (canonical path) := by
  refine (Ignores.look _).bind fun x => ?_
  cases x with
  | ok p => exact .pure p
  | error e => exact .throw _

/-- The search looks at the disk alone. -/
lemma searchUp_ignores (depth slashes : ℕ) (parts : List Text) :
    Ignores (searchUp depth slashes parts) := by
  induction depth generalizing parts with
  | zero => exact .pure none
  | succ depth ih =>
      unfold searchUp
      refine (Ignores.look _).bind fun _ => (Ignores.ofAccess _).bind fun _ => .ite ?_ ?_
      · exact (Ignores.change _).bind fun _ => (Ignores.ofAccess _).bind fun _ => .pure _
      · cases parts with
        | nil => exact .pure none
        | cons c above => exact ih above

lemma findLogDir_ignores (start : Text) : Ignores (findLogDir start) := by
  have hsearch : ∀ start, Ignores (do
      let p ← canonical (Path.ofText start).toText
      searchUp searchDepth p.slashes p.parts.reverse) := fun start =>
    (canonical_ignores _).bind fun _ => searchUp_ignores _ _ _
  rw [findLogDir]
  refine Ignores.get_bind (fun _ _ _ => rfl) fun s => ?_
  split
  · refine Ignores.host.bind fun _ => (Ignores.changeMost _).bind fun x => ?_
    cases x with
    | ok u => exact .pure _
    | error e => exact .throw _
  · exact .ite (Ignores.herePath.bind hsearch) ((Ignores.pure _).bind hsearch)

lemma attached_ignores (l : Logger) (path : Path) : Ignores (attached l path) := by
  rw [attached]
  exact .ite (.pure _) ((canonical_ignores _).bind fun _ => .pure _)

lemma openIn_ignores (dir : Path) : Ignores (openIn dir) := by
  refine Ignores.host.bind fun _ => (Ignores.changeMost _).bind fun x => ?_
  cases x with
  | error e =>
      cases e with
      | system e => exact .pure _
      | _ => exact .throw _
  | ok u =>
      refine Ignores.herePath.bind fun here => (Ignores.changeFor _).bind fun y => ?_
      cases y with
      | error e =>
          cases e with
          | system e => exact .pure _
          | _ => exact .throw _
      | ok place => exact .pure _

/-- A log is attached whatever the arguments and the records are. -/
lemma attach_ignores (name : Text) (dir : Path) (level : ℤ) : Ignores (attach name dir level) := by
  refine (Ignores.record _).bind fun _ => ?_
  refine Ignores.get_bind (fun _ _ _ => rfl) fun s => ?_
  refine (attached_ignores _ _).bind fun there => .ite (.pure _) ?_
  refine (openIn_ignores dir).bind fun x => ?_
  cases x with
  | none => exact .pure _
  | some p => exact (Ignores.record _).bind fun _ => .pure _

/-- **The set-up does not care** about the arguments of the program, nor about what
was recorded before. -/
lemma setUp_ignores (dir : Text) (level : ℤ) : Ignores (setUp mainLogger dir level) := by
  have hname : setUpName mainLogger = pure mainLogger := rfl
  have hready : ∀ n, Ignores (do record (·.markReady n); return loggerName n) := fun n =>
    (Ignores.record _).bind fun _ => .pure _
  have hattach : ∀ n found, Ignores (conclude n level found) := by
    intro n found
    cases found with
    | none => exact hready n
    | some d => exact (attach_ignores _ _ _).discard.bind fun _ => hready n
  rw [setUp, hname]
  refine (Ignores.pure _).bind fun n => Ignores.get_bind (fun _ _ _ => rfl) fun s => ?_
  refine .ite (.pure _) ((Ignores.record _).bind fun _ => ?_)
  refine Ignores.get_bind (fun _ _ _ => rfl) fun s => .ite (hready n) ?_
  refine (Ignores.record _).bind fun _ => ?_
  exact .ite ((findLogDir_ignores []).bind (hattach n)) ((Ignores.pure _).bind (hattach n))

end Audit

/-! ### Journals that collect -/

namespace Journal

/-- The handlers that the records of a logger come to. -/
def handlersOf (j : Journal) (name : Text) : List Handler :=
  (j.tree.line name).flatMap fun n => (j.logger n).handlers

/-- The main logger is there and keeps all records that are no mere details, and one
of the handlers that they come to collects them. -/
structure Collects (j : Journal) : Prop where
  known : j.meet mainLogger = j
  keeps : ∀ level, Level.info ≤ level → j.accepts mainLogger level = true
  once : ∀ level, Level.info ≤ level →
    (j.handlersOf mainLogger).countP (fun h => h.level ≤ level && h.sink = .collection) = 1

/-- What is remembered of a level is what would be found out again. -/
lemma accepts_decide (j : Journal) (name m : Text) (level l : ℤ) :
    (j.decide name level).accepts m l = j.accepts m l := by
  by_cases h : (m, l) = (name, level)
  · obtain ⟨rfl, rfl⟩ := Prod.mk.inj h
    simp [accepts, decide]
  · have hne : ((m, l) == (name, level)) = false := by simpa using h
    rw [accepts, decide, List.lookup_cons, hne]
    rfl

namespace Collects

variable {j : Journal} {r : Record}

/-- What is remembered of a level changes no handler. -/
lemma decide (h : j.Collects) (name : Text) (level : ℤ) : (j.decide name level).Collects where
  known :=
    congrArg (fun k : Journal => { k with verdicts := (j.decide name level).verdicts }) h.known
  keeps l hl := (accepts_decide j name mainLogger level l).trans (h.keeps l hl)
  once := h.once

end Collects

end Journal

namespace Session

variable {r : Record}

end Session

/-! ### The convention for exit statuses -/

/-- A session before any run, where the environment names a directory for the log. -/
def collecting : Session :=
  { host := .lenient 984 981 .late
    disk := ⟨[]⟩
    here := []
    settingsVar := none
    logDirVar := some "logs".toText
    arguments := ["script.py".toText]
    stamp := []
    elapsed := "0.0".toText
    journal := .start ⟨Level.warning, [⟨.collection, 0⟩]⟩ Generator.loggers
    stdout := []
    stderr := []
    records := [] }

/-- The outcome and the records of a watched run in that session. -/
def watched (body : Action Unit) : Except Failure Unit × List Record :=
  let run := runOn (watch (fun _ => .absent) body) collecting
  (run.1, run.2.records)

end TestScaffold
