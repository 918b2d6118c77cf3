import TestScaffold.Proofs.Audit.Attaching
import TestScaffold.Proofs.Disk.Twins
import TestScaffold.Proofs.Session.Watching

/-!
Sessions that differ in their logs only.

* `Session.Tidy` is a session on a tree without links whose journal writes to no
  files but logs. It stays so when a record is made.
* `Session.Twins` are two such sessions. They may differ in the contents of the logs,
  and a loose pair also in the loggers and in which logs there are. A record makes
  twins of twins, be it made in one of them only (`twins_log`).
* `Action.Tidies` is an action that leaves a tidy session tidy, while it adds to the
  disk and changes the journal.
* `Action.Alike` are two runs with the same result that leave twins, and
  `Action.Indifferent` is an action that ends alike in twins. Both go through the
  steps of an action.
-/

namespace TestScaffold

open Audit (fileName)

/-- The name of a log is a name of the disk. -/
lemma Audit.isName_fileName : Path.IsName fileName := by
  decide

namespace Session

/-- The session stands on a tree without links, and writes to no files but logs. -/
structure Tidy (s : Session) : Prop where
  isPlain : s.IsPlain
  logs : ∀ l, s.journal.WritesTo l → Disk.Called fileName l

lemma IsPlain.plain {s : Session} (h : s.IsPlain) : s.disk.Plain s.here :=
  ⟨h.linkFree, h.isTree, h.here⟩

lemma Tidy.plain {s : Session} (h : s.Tidy) : s.disk.Plain s.here := h.isPlain.plain

/-- A tidy session stays tidy on another plain disk. -/
lemma Tidy.of_plain {s : Session} {d : Disk} (h : s.Tidy) (hd : d.Plain s.here) :
    ({ s with disk := d } : Session).Tidy :=
  ⟨⟨hd.linkFree, hd.isTree, hd.here⟩, h.logs⟩

/-- A session is tidy with another journal that writes to logs, and another disk. -/
lemma tidy_of_logs {s : Session} {d : Disk} {j : Journal} (hd : d.Plain s.here)
    (hj : ∀ l, j.WritesTo l → Disk.Called fileName l) :
    ({ s with disk := d, journal := j } : Session).Tidy :=
  ⟨⟨hd.linkFree, hd.isTree, hd.here⟩, hj⟩

/-- The two sessions differ in their logs only. -/
structure Twins (loose : Bool) (s s' : Session) : Prop where
  host : s'.host = s.host
  here : s'.here = s.here
  settingsVar : s'.settingsVar = s.settingsVar
  stdout : s'.stdout = s.stdout
  disk : s.disk.Twins fileName loose s'.disk
  loggers : loose = false → s'.journal.loggers = s.journal.loggers
  tidy : s.Tidy
  tidy' : s'.Tidy

variable {s s' s'' : Session} {loose : Bool}

namespace Twins

lemma refl (loose : Bool) (h : s.Tidy) : s.Twins loose s :=
  ⟨rfl, rfl, rfl, rfl, .refl _ _ _, fun _ => rfl, h, h⟩

lemma symm (h : s.Twins loose s') : s'.Twins loose s :=
  ⟨h.host.symm, h.here.symm, h.settingsVar.symm, h.stdout.symm, h.disk.symm,
    fun hl => (h.loggers hl).symm,
    h.tidy', h.tidy⟩

/-- Being twins is an equivalence, also where contents of logs do not count. -/
lemma trans (h : s.Twins loose s') (h' : s'.Twins loose s'') : s.Twins loose s'' :=
  ⟨h'.host.trans h.host, h'.here.trans h.here, h'.settingsVar.trans h.settingsVar,
    h'.stdout.trans h.stdout, h.disk.trans h'.disk,
    fun hl => (h'.loggers hl).trans (h.loggers hl), h.tidy, h'.tidy'⟩

lemma loosen (h : s.Twins loose s') : s.Twins true s' :=
  { h with disk := h.disk.loosen, loggers := by simp }

/-- Twins with the same loggers are twins in the loose sense. -/
lemma of_tight (h : s.Twins false s') : s.Twins loose s' := by
  cases loose with
  | true => exact h.loosen
  | false => exact h

/-- The disks of both, from one directory. -/
lemma plain' (h : s.Twins loose s') : s'.disk.Plain s.here := h.here ▸ h.tidy'.plain

/-- Both disks are changed, and are still twins. -/
lemma of_disk {d d' : Disk} (h : s.Twins loose s') (hd : d.Twins fileName loose d')
    (hp : d.Plain s.here) (hp' : d'.Plain s.here) :
    Twins loose { s with disk := d } { s' with disk := d' } :=
  { h with
    disk := hd
    tidy := h.tidy.of_plain hp
    tidy' := h.tidy'.of_plain (h.here ▸ hp') }

end Twins

/-- **A record makes a twin**, on whatever logs it is. -/
lemma twins_log (h : s.Tidy) (r : Record) : s.Twins false (s.log r) := by
  have htold := OnlyTold.log s r
  have hvar : (s.log r).settingsVar = s.settingsVar := by
    rw [log, foldl_deliver_eq]
  refine ⟨htold.host, htold.here, hvar, stdout_log s r,
    ⟨fun l hl => ?_, fun l => ?_, fun _ l => ?_⟩,
    fun _ => htold.loggers, h, ⟨htold.isPlain h.isPlain, fun l hl => ?_⟩⟩
  · exact (htold.disk l).2 (mt (h.logs l) hl)
  · exact ⟨htold.disk.symm.grows.get?_dir, htold.disk.grows.get?_dir⟩
  · exact (htold.disk l).1
  · exact h.logs l (htold.writesTo_iff.mp hl)

/-- A record may be made in both, and need not be the same. -/
lemma Twins.log (h : s.Twins loose s') (r r' : Record) : (s.log r).Twins loose (s'.log r') :=
  ((twins_log h.tidy r).symm.of_tight.trans h).trans (twins_log h.tidy' r').of_tight

/-- A twin has another journal that writes to logs, and more logs on its disk. -/
lemma twins_of_logs {d : Disk} {j : Journal} (h : s.Tidy) (hd : s.disk.Twins fileName true d)
    (hp : d.Plain s.here) (hj : ∀ l, j.WritesTo l → Disk.Called fileName l) :
    s.Twins true { s with disk := d, journal := j } :=
  ⟨rfl, rfl, rfl, rfl, hd, by simp, h, tidy_of_logs hp hj⟩

/-- What is said to the user is no log. -/
lemma twins_complain (h : s.Tidy) (t : Text) :
    s.Twins false { s with stderr := s.stderr ++ t } :=
  ⟨rfl, rfl, rfl, rfl, .refl _ _ _, fun _ => rfl, h,
    ⟨⟨h.isPlain.1, h.isPlain.2, h.isPlain.3⟩, h.logs⟩⟩

end Session

namespace Action

variable {α β : Type} {s s' : Session} {loose : Bool}

/-- The action succeeds with this result in some tidy session. -/
def TidyYields (m : Action α) (a : α) : Prop :=
  ∃ s s' : Session, s.Tidy ∧ runOn m s = (.ok a, s')

lemma TidyYields.yields {m : Action α} {a : α} (h : m.TidyYields a) : m.Yields a := by
  obtain ⟨s, s', -, hrun⟩ := h
  exact ⟨s, s', hrun⟩

/-! ### Keeping sessions tidy -/

/-- The action leaves a tidy session tidy, and makes nothing else than additions to the
disk and a new journal. -/
def Tidies (m : Action α) : Prop := ∀ s : Session, s.Tidy →
  (runOn m s).2.Tidy ∧ ∃ d j, s.disk.Adds d ∧ (runOn m s).2 = { s with disk := d, journal := j }

namespace Tidies

/-- An action that only makes directories keeps logs where they are. -/
lemma of_onlyMakes {m : Action α} (h : OnlyMakes m) : Tidies m := by
  intro s hs
  obtain ⟨d, hadds, hd⟩ := h s
  rw [hd]
  exact ⟨hs.of_plain (hs.plain.adds hadds), d, s.journal, hadds, rfl⟩

lemma pure (a : α) : Tidies (pure a : Action α) := of_onlyMakes (.pure a)

/-- A change of the journal that opens nothing but logs. -/
lemma record {f : Journal → Journal}
    (hf : ∀ j l, (f j).WritesTo l → Disk.Called fileName l ∨ j.WritesTo l) :
    Tidies (Action.record f) := by
  intro s hs
  refine ⟨Session.tidy_of_logs hs.plain fun l hl => ?_, s.disk, f s.journal, .refl _, rfl⟩
  exact (hf s.journal l hl).elim id (hs.logs l)

lemma bind {m : Action α} {f : α → Action β} (hm : Tidies m)
    (hf : ∀ a, m.Yields a → Tidies (f a)) : Tidies (m >>= f) := by
  intro s hs
  obtain ⟨htidy, d, j, hadds, hleft⟩ := hm s hs
  rcases hrun : runOn m s with ⟨e | a, s'⟩
  · rw [runOn_bind_of_error hrun]
    rw [hrun] at htidy hleft
    exact ⟨htidy, d, j, hadds, hleft⟩
  · rw [runOn_bind_of_ok hrun]
    rw [hrun] at htidy hleft
    obtain ⟨htidy', d', j', hadds', hleft'⟩ := hf a ⟨s, s', hrun⟩ s' htidy
    obtain rfl : s' = { s with disk := d, journal := j } := hleft
    exact ⟨htidy', d', j', hadds.trans hadds', hleft'⟩

lemma ite {c : Prop} [Decidable c] {m n : Action α} (hm : Tidies m) (hn : Tidies n) :
    Tidies (if c then m else n) := by
  split
  · exact hm
  · exact hn

lemma discard {m : Action α} (h : Tidies m) : Tidies (Functor.discard m) := by
  rw [discard_eq_bind]
  exact h.bind fun _ _ => pure _

end Tidies

/-! ### Being indifferent to logs -/

/-- Two runs end alike: with the same result, and they leave twins. -/
structure Alike (loose : Bool) (x x' : Except Failure α × Session) : Prop where
  same : x'.1 = x.1
  twins : x.2.Twins loose x'.2

/-- Steps that end alike, and then steps that do so after each result. -/
lemma Alike.bind {m m' : Action α} {f f' : α → Action β}
    (hm : Alike loose (runOn m s) (runOn m' s'))
    (hf : ∀ a t t', runOn m s = (.ok a, t) → t.Twins loose t' →
      Alike loose (runOn (f a) t) (runOn (f' a) t')) :
    Alike loose (runOn (m >>= f) s) (runOn (m' >>= f') s') := by
  obtain ⟨hsame, htwins⟩ := hm
  rcases hrun : runOn m s with ⟨r, t⟩
  rcases hrun' : runOn m' s' with ⟨r', t'⟩
  rw [hrun, hrun'] at hsame htwins
  obtain rfl : r' = r := hsame
  cases r' with
  | error e =>
      rw [runOn_bind_of_error hrun, runOn_bind_of_error hrun']
      exact ⟨rfl, htwins⟩
  | ok a =>
      rw [runOn_bind_of_ok hrun, runOn_bind_of_ok hrun']
      exact hf a t t' hrun htwins

/-- Failures that are caught are results that can be compared. -/
lemma Alike.attempt {m m' : Action α} (h : Alike loose (runOn m s) (runOn m' s')) :
    Alike loose (runOn (attempt m) s) (runOn (attempt m') s') := by
  rw [runOn_attempt, runOn_attempt]
  exact ⟨congrArg Except.ok h.same, h.twins⟩

/-- The action ends alike in twins. -/
def Indifferent (loose : Bool) (m : Action α) : Prop :=
  ∀ s s' : Session, s.Twins loose s' → Alike loose (runOn m s) (runOn m s')

namespace Indifferent

/-- An action that changes nothing, with a result that is the same for twins. -/
lemma of_runOn {m : Action α} {r : Session → Except Failure α} (h : ∀ s, runOn m s = (r s, s))
    (hr : ∀ s s' : Session, s.Twins loose s' → r s' = r s) : Indifferent loose m := by
  intro s s' hs
  rw [h, h]
  exact ⟨hr s s' hs, hs⟩

lemma pure (a : α) : Indifferent loose (pure a : Action α) :=
  of_runOn (fun _ => runOn_pure a) fun _ _ _ => rfl

lemma refuse (e : ScaffoldError) : Indifferent loose (Action.refuse e : Action α) :=
  of_runOn (fun _ => runOn_refuse e) fun _ _ _ => rfl

lemma throw (e : Failure) : Indifferent loose (throw e : Action α) :=
  of_runOn (r := fun _ => .error e) (fun _ => rfl) fun _ _ _ => rfl

lemma ofExcept (x : Except Failure α) : Indifferent loose (MonadExcept.ofExcept x : Action α) :=
  of_runOn (fun _ => runOn_ofExcept x) fun _ _ _ => rfl

lemma accessOr (wrap : SystemError → ScaffoldError) (x : Except AccessError α) :
    Indifferent loose (Action.accessOr wrap x) := by
  cases x with
  | ok a => exact pure a
  | error e =>
      cases e with
      | system e => exact refuse _
      | _ => exact of_runOn (r := fun _ => .error _) (fun _ => rfl) fun _ _ _ => rfl

/-- What is seen on the disk must be the same in twins. This is what has to be shown of
each question. -/
lemma look {f : Disk → Location → α}
    (hf : ∀ s s' : Session, s.Twins loose s' → f s'.disk s.here = f s.disk s.here) :
    Indifferent loose (Action.look f) :=
  of_runOn (fun _ => runOn_look f) fun s s' hs => by rw [hs.here, hf s s' hs]

lemma herePath : Indifferent loose Action.herePath :=
  of_runOn (r := fun s => .ok s.herePath) (fun _ => rfl) fun s s' hs => by
    rw [Session.herePath, Session.herePath, hs.here]

/-- Records may differ: they go to logs, which do not count. -/
lemma log (logger : Text) (level : ℤ) (message : Text) :
    Indifferent loose (Action.log logger level message) := fun _ _ hs =>
  ⟨rfl, hs.log _ _⟩

lemma host : Indifferent loose Action.host :=
  of_runOn (r := fun s => .ok s.host) runOn_host fun s s' hs => by rw [hs.host]

/-- What the console refuses of one of them it refuses of the other. -/
lemma print (t : Text) : Indifferent loose (Action.print t) := by
  intro s s' hs
  cases h : s.host.console.refusal? t with
  | some what =>
      rw [runOn_print_of_refused h, runOn_print_of_refused (s := s') (hs.host ▸ h)]
      exact ⟨rfl, hs⟩
  | none => ?_
  rw [runOn_print_of_ok h, runOn_print_of_ok (s := s') (hs.host ▸ h)]
  refine ⟨rfl, { hs with
    stdout := congrArg (· ++ t) hs.stdout
    tidy := ⟨⟨hs.tidy.isPlain.1, hs.tidy.isPlain.2, hs.tidy.isPlain.3⟩, hs.tidy.logs⟩
    tidy' := ⟨⟨hs.tidy'.isPlain.1, hs.tidy'.isPlain.2, hs.tidy'.isPlain.3⟩, hs.tidy'.logs⟩ }⟩

lemma complain (t : Text) : Indifferent loose (Action.complain t) := fun _ _ hs =>
  ⟨rfl, ((Session.twins_complain hs.tidy t).symm.of_tight.trans hs).trans
    (Session.twins_complain hs.tidy' t).of_tight⟩

/-- A change of the journal that depends on the loggers only and opens nothing but
logs. -/
lemma record {f : Journal → Journal}
    (hloggers : ∀ j j', j'.loggers = j.loggers → (f j').loggers = (f j).loggers)
    (hlogs : ∀ j l, (f j).WritesTo l → Disk.Called fileName l ∨ j.WritesTo l) :
    Indifferent loose (Action.record f) := fun s s' hs =>
  ⟨rfl, { hs with
    loggers := fun hl => hloggers _ _ (hs.loggers hl)
    tidy := (Tidies.record hlogs s hs.tidy).1
    tidy' := (Tidies.record hlogs s' hs.tidy').1 }⟩

/-- What is looked at in the session is the same for twins. -/
lemma get_bind {f : Session → Action β} (hsame : ∀ s s' : Session, s.Twins loose s' → f s' = f s)
    (hf : ∀ s, Indifferent loose (f s)) : Indifferent loose (get >>= f) := by
  intro s s' hs
  rw [runOn_get_bind, runOn_get_bind, hsame s s' hs]
  exact hf s s s' hs

/-- A step, and then an action for each result that the step may have. -/
lemma bind {m : Action α} {f : α → Action β} (hm : Indifferent loose m)
    (hf : ∀ a, m.TidyYields a → Indifferent loose (f a)) : Indifferent loose (m >>= f) :=
  fun s s' hs => (hm s s' hs).bind fun a t t' hrun => hf a ⟨s, t, hs.tidy, hrun⟩ t t'

lemma discard {m : Action α} (hm : Indifferent loose m) :
    Indifferent loose (Functor.discard m) := by
  rw [discard_eq_bind]
  exact hm.bind fun _ _ => pure _

lemma ite {c : Prop} [Decidable c] {m n : Action α} (hm : Indifferent loose m)
    (hn : Indifferent loose n) : Indifferent loose (if c then m else n) := by
  split
  · exact hm
  · exact hn

lemma forM {l : List β} {f : β → Action PUnit} (hf : ∀ b, Indifferent loose (f b)) :
    Indifferent loose (l.forM f) := by
  induction l with
  | nil => exact pure _
  | cons b l ih => exact (hf b).bind fun _ _ => ih

/-- A change that is refused in both, or has the same result in both and leaves twins. -/
lemma changeFor {f : Disk → Location → Except AccessError (Disk × α)}
    (hf : ∀ s s' : Session, s.Twins loose s' →
      (∃ e, f s.disk s.here = .error e ∧ f s'.disk s.here = .error e) ∨
        ∃ a d d', f s.disk s.here = .ok (d, a) ∧ f s'.disk s.here = .ok (d', a) ∧
          d.Twins fileName loose d')
    (hplain : ∀ (d d' : Disk) here a, d.Plain here → f d here = .ok (d', a) → d'.Plain here) :
    Indifferent loose (Action.changeFor f) := by
  intro s s' hs
  rcases hf s s' hs with ⟨e, hx, hx'⟩ | ⟨a, d, d', hx, hx', hd⟩
  · rw [runOn_changeFor_of_error hx, runOn_changeFor_of_error (hs.here ▸ hx')]
    exact ⟨rfl, hs⟩
  · rw [runOn_changeFor_of_ok hx, runOn_changeFor_of_ok (hs.here ▸ hx')]
    exact ⟨rfl, hs.of_disk hd (hplain _ _ _ _ hs.tidy.plain hx) (hplain _ _ _ _ hs.plain' hx')⟩

/-- A change with the same answer in both that leaves twins. -/
lemma changeMost {f : Disk → Location → Except AccessError Unit × Disk}
    (hf : ∀ s s' : Session, s.Twins loose s' →
      Disk.ChangedMost fileName loose (f s.disk s.here) (f s'.disk s.here))
    (hadds : ∀ (d : Disk) here, d.Adds (f d here).2) : Indifferent loose (Action.changeMost f) := by
  intro s s' hs
  obtain ⟨hanswer, hd⟩ := hf s s' hs
  have hsame : f s'.disk s'.here = f s'.disk s.here := by rw [hs.here]
  rw [runOn_changeMost, runOn_changeMost, hsame]
  exact ⟨congrArg Except.ok hanswer, hs.of_disk hd (hs.tidy.plain.adds (hadds _ _))
    (hs.plain'.adds (hadds _ _))⟩

end Indifferent

end Action

end TestScaffold
