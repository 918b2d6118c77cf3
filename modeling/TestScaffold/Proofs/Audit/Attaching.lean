import TestScaffold.Audit
import TestScaffold.Proofs.Disk.Adding
import TestScaffold.Proofs.Session.Telling

/-!
What attaching a log does.

* `Action.OnlyMakes` is an action that only adds to the disk, whatever it ends
  with; looking for the directory of a log is one (`findLogDir_onlyMakes`).
* `Attaches` are the ways in which attaching a log to a logger ends: the log is
  there already, or it is refused, or it is added as the last handler. `attach_attaches`
  says that there are no others.
-/

namespace TestScaffold

namespace Action

variable {α β : Type} {s : Session}

@[simp] lemma runOn_get_bind (k : Session → Action β) :
    runOn (get >>= k) s = runOn (k s) s := rfl

@[simp] lemma runOn_herePath_bind (k : Text → Action β) :
    runOn (herePath >>= k) s = runOn (k (Disk.pathTo s.here)) s := rfl

@[simp] lemma runOn_record_bind (f : Journal → Journal) (k : Unit → Action β) :
    runOn (record f >>= k) s = runOn (k ()) { s with journal := f s.journal } := rfl

lemma discard_eq_bind (m : Action α) : discard m = m >>= fun _ => pure () := by
  rw [discard, map_const]
  exact (bind_pure_comp _ _).symm

/-- An action whose result is discarded succeeds where the action does. -/
lemma runOn_discard_eq_ok {m : Action α} {s' : Session} {u : Unit} :
    runOn (discard m) s = (.ok u, s') ↔ ∃ a, runOn m s = (.ok a, s') := by
  rw [discard_eq_bind, runOn_bind_eq_ok]
  simp

lemma runOn_discard_eq_error {m : Action α} {s' : Session} {e : Failure} :
    runOn (discard m) s = (.error e, s') ↔ runOn m s = (.error e, s') := by
  rw [discard_eq_bind, runOn_bind]
  rcases runOn m s with ⟨e' | a, s₁⟩ <;> simp

/-- A result that is thrown away changes nothing in the session. -/
lemma runOn_discard_snd (m : Action α) (s : Session) : (runOn (discard m) s).2 = (runOn m s).2 := by
  rw [discard_eq_bind, runOn_bind]
  rcases runOn m s with ⟨e | a, s'⟩ <;> rfl

/-! ### Making only -/

/-- Whatever the action ends with, it has only added to the disk. -/
def OnlyMakes (m : Action α) : Prop :=
  ∀ s, ∃ d, s.disk.Adds d ∧ (runOn m s).2 = { s with disk := d }

namespace OnlyMakes

/-- An action that changes nothing. -/
lemma of_runOn {m : Action α} {r : Session → Except Failure α} (h : ∀ s, runOn m s = (r s, s)) :
    OnlyMakes m := by
  intro s
  exact ⟨s.disk, .refl _, by rw [h]⟩

lemma pure (a : α) : OnlyMakes (pure a : Action α) := of_runOn fun _ => runOn_pure a

lemma get : OnlyMakes (get : Action Session) := of_runOn fun _ => rfl

lemma host : OnlyMakes Action.host := of_runOn runOn_host

lemma look (f : Disk → Location → α) : OnlyMakes (Action.look f) := of_runOn fun _ => runOn_look f

lemma throw (e : Failure) : OnlyMakes (throw e : Action α) :=
  of_runOn (r := fun _ => .error e) fun _ => rfl

lemma ofAccess (x : Except AccessError α) : OnlyMakes (Action.ofAccess x) := by
  cases x with
  | ok a => exact pure a
  | error e => exact throw _

/-- A change makes directories only if all that it can come to has more of them. -/
lemma change {f : Disk → Location → Except AccessError Disk}
    (hf : ∀ (d : Disk) here d', f d here = .ok d' → d.Adds d') : OnlyMakes (Action.change f) := by
  intro s
  rcases h : f s.disk s.here with e | d
  · exact ⟨s.disk, .refl _, by rw [runOn_change_of_error h]⟩
  · exact ⟨d, hf _ _ _ h, by rw [runOn_change_of_ok h]⟩

/-- This is so as well for a change that gives up halfway. -/
lemma changeMost {f : Disk → Location → Except AccessError Unit × Disk}
    (hf : ∀ (d : Disk) here, d.Adds (f d here).2) : OnlyMakes (Action.changeMost f) := by
  intro s
  exact ⟨_, hf s.disk s.here, rfl⟩

/-- Directories may be made in more than one step. -/
lemma bind {m : Action α} {f : α → Action β} (hm : OnlyMakes m) (hf : ∀ a, OnlyMakes (f a)) :
    OnlyMakes (m >>= f) := by
  intro s
  obtain ⟨d, hadds, hd⟩ := hm s
  rcases h : runOn m s with ⟨e | a, s'⟩
  · rw [h] at hd
    exact ⟨d, hadds, by rw [runOn_bind_of_error h, ← hd]⟩
  · rw [h] at hd
    obtain rfl : s' = { s with disk := d } := hd
    obtain ⟨d', hadds', hd'⟩ := hf a { s with disk := d }
    exact ⟨d', hadds.trans hadds', by rw [runOn_bind_of_ok h, hd']⟩

lemma ite {c : Prop} [Decidable c] {m n : Action α} (hm : OnlyMakes m) (hn : OnlyMakes n) :
    OnlyMakes (if c then m else n) := by
  split
  · exact hm
  · exact hn

end OnlyMakes

end Action

namespace Audit

open TestScaffold.Action

/-! ### The directory -/

lemma canonical_onlyMakes (path : Text) : OnlyMakes (canonical path) := by
  refine (OnlyMakes.look _).bind fun x => ?_
  cases x with
  | ok p => exact .pure p
  | error e => exact .throw _

/-- The search makes a directory for logs at most, where it finds a marker. -/
lemma searchUp_onlyMakes (depth slashes : ℕ) (parts : List Text) :
    OnlyMakes (searchUp depth slashes parts) := by
  induction depth generalizing parts with
  | zero => exact .pure none
  | succ depth ih =>
      unfold searchUp
      refine (OnlyMakes.look _).bind fun _ => (OnlyMakes.ofAccess _).bind fun _ => .ite ?_ ?_
      · exact (OnlyMakes.change fun _ _ _ => Disk.adds_of_ensureDirStrict).bind fun _ =>
          (OnlyMakes.ofAccess _).bind fun _ => .pure _
      · cases parts with
        | nil => exact .pure none
        | cons c above => exact ih above

lemma findLogDir_onlyMakes (start : Text) : OnlyMakes (findLogDir start) := by
  rw [findLogDir]
  refine OnlyMakes.get.bind fun s => ?_
  have hsearch : ∀ start, OnlyMakes (do
      let p ← canonical (Path.ofText start).toText
      searchUp searchDepth p.slashes p.parts.reverse) := fun start =>
    (canonical_onlyMakes _).bind fun _ => searchUp_onlyMakes _ _ _
  split
  · refine OnlyMakes.host.bind fun host =>
      (OnlyMakes.changeMost fun d here => d.makePath_adds here _ _).bind fun x => ?_
    cases x with
    | ok u => exact .pure _
    | error e => exact .throw _
  · exact .ite ((OnlyMakes.get.bind fun _ => .pure _).bind hsearch)
      ((OnlyMakes.pure _).bind hsearch)

/-! ### Handlers -/

/-- The path of the log in a directory. -/
def logPath (dir : Path) : Path := dir.child fileName

/-- The path that the log of a directory is opened at. -/
def openedAt (here : Location) (dir : Path) : Text :=
  Path.absolute (Disk.pathTo here) (logPath dir).toText

/-- The log of a directory is opened at the place, after its directories have
been made. -/
def OpensAt (s : Session) (dir : Path) (d' : Disk) (place : Location) : Prop :=
  ∃ d, s.disk.makePath s.here (s.host.logRoom + 1) dir = (.ok (), d) ∧
    d.openLog s.here (openedAt s.here dir) = .ok (d', place)

/-- A log that is opened is a file afterwards, and on the way to it only directories were
made. -/
lemma OpensAt.adds {s : Session} {dir : Path} {d' : Disk} {place : Location}
    (h : OpensAt s dir d' place) : s.disk.Adds d' ∧
      (s.disk.IsTree → s.disk.get? s.here = some .dir →
        ∃ bs, d'.get? place = some (.file bs)) := by
  obtain ⟨d, hmade, hopen⟩ := h
  have hadds := s.disk.makePath_adds s.here (s.host.logRoom + 1) dir
  rw [hmade] at hadds
  obtain ⟨hadds', hfile⟩ := Disk.adds_of_openLog hopen
  exact ⟨hadds.trans hadds', fun htree hhere =>
    hfile (hadds.isTree htree) (hadds.get?_of_some hhere)⟩

/-- The paths of the files of a logger. -/
def paths (l : Logger) : List Text := l.handlers.filterMap (·.path?)

/-- The ways in which attaching the log of a directory to a logger ends. -/
inductive Attaches (name : Text) (dir : Path) (level : ℤ) (s : Session) :
    Except Failure (Option Path) → Session → Prop
  /-- A handler has the path already. -/
  | there {p : Text} (hp : p ∈ paths ((s.journal.meet name).logger name))
      (hplace : s.disk.canonical s.here (logPath dir).toText = .ok (Path.ofText p)) :
      Attaches name dir level s (.ok (some (logPath dir)))
        { s with journal := s.journal.meet name }
  /-- The log cannot be opened, or its path cannot be understood. -/
  | refused {r : Except Failure (Option Path)} {d : Disk} (hr : ∀ p, r ≠ .ok (some p))
      (hadds : s.disk.Adds d) :
      Attaches name dir level s r { s with disk := d, journal := s.journal.meet name }
  /-- No handler has the path, and the log is opened. -/
  | added {d' : Disk} {place : Location}
      (hnew : paths ((s.journal.meet name).logger name) ≠ [] →
        ∃ q, s.disk.canonical s.here (logPath dir).toText = .ok q ∧
          ∀ p ∈ paths ((s.journal.meet name).logger name), Path.ofText p ≠ q)
      (hopens : OpensAt s dir d' place) :
      Attaches name dir level s (.ok (some (logPath dir)))
        { s with
          disk := d'
          journal := (s.journal.meet name).addHandler name
            ⟨.file (openedAt s.here dir) place, level⟩ }

/-- The ways in which opening a log ends. -/
lemma openIn_cases (dir : Path) (s : Session) :
    (∃ r d, (∀ x, r ≠ .ok (some x)) ∧ s.disk.Adds d ∧
        runOn (openIn dir) s = (r, { s with disk := d })) ∨
      ∃ d' place, OpensAt s dir d' place ∧ runOn (openIn dir) s =
        (.ok (some (openedAt s.here dir, place)), { s with disk := d' }) := by
  have hmade := runOn_changeMost (s := s) fun d here => d.makePath here (s.host.logRoom + 1) dir
  have hadds := s.disk.makePath_adds s.here (s.host.logRoom + 1) dir
  rw [openIn, runOn_host_bind, runOn_bind_of_ok hmade]
  rcases hmake : s.disk.makePath s.here (s.host.logRoom + 1) dir with ⟨e | u, d⟩
  · rw [hmake] at hadds
    cases e <;> exact .inl ⟨_, d, by simp, hadds, rfl⟩
  rw [hmake] at hadds
  dsimp only at hadds ⊢
  rw [runOn_herePath_bind]
  rcases hopen : d.openLog s.here (openedAt s.here dir) with e | ⟨d', place⟩
  · refine .inl ?_
    rw [openedAt, logPath] at hopen
    rw [runOn_bind_of_ok (runOn_changeFor_of_error hopen)]
    cases e <;> exact ⟨_, d, by simp, hadds, rfl⟩
  · refine .inr ⟨d', place, ⟨d, hmake, hopen⟩, ?_⟩
    rw [openedAt, logPath] at hopen
    rw [runOn_bind_of_ok (runOn_changeFor_of_ok hopen)]
    rfl

/-- Whether the log is there already: it is asked only if the logger has files,
and then the path must be understood. -/
lemma attached_cases (l : Logger) (path : Path) (s : Session) :
    (∃ p ∈ paths l, s.disk.canonical s.here path.toText = .ok (Path.ofText p) ∧
        runOn (attached l path) s = (.ok true, s)) ∨
      (∃ e, s.disk.canonical s.here path.toText = .error e ∧
        runOn (attached l path) s = (.error (.ofResolve e), s)) ∨
      (paths l ≠ [] → ∃ q, s.disk.canonical s.here path.toText = .ok q ∧
          ∀ p ∈ paths l, Path.ofText p ≠ q) ∧ runOn (attached l path) s = (.ok false, s) := by
  rw [attached]
  split
  · next hnil => exact .inr (.inr ⟨fun h => absurd hnil h, rfl⟩)
  next hne =>
  rw [canonical, bind_assoc, runOn_look_bind]
  rcases hplace : s.disk.canonical s.here path.toText with e | q
  · exact .inr (.inl ⟨e, rfl, rfl⟩)
  by_cases hany : ∃ p ∈ paths l, Path.ofText p = q
  · obtain ⟨p, hp, rfl⟩ := hany
    have htrue : ((paths l).any fun p' => Path.ofText p' = Path.ofText p) = true :=
      List.any_eq_true.mpr ⟨p, hp, by simp⟩
    exact .inl ⟨p, hp, rfl, congrArg (fun b => (Except.ok b, s)) htrue⟩
  · push Not at hany
    have hfalse : ((paths l).any fun p => Path.ofText p = q) = false := by
      simpa using hany
    exact .inr (.inr ⟨fun _ => ⟨q, rfl, hany⟩, congrArg (fun b => (Except.ok b, s)) hfalse⟩)

/-- A log that no handler has is opened. -/
lemma runOn_attach_of_canonical {name : Text} {dir q : Path} {s : Session} (level : ℤ)
    (hq : s.disk.canonical s.here (logPath dir).toText = .ok q)
    (hnew : ∀ p ∈ paths ((s.journal.meet name).logger name), Path.ofText p ≠ q) :
    runOn (attach name dir level) s =
      runOn (openIn dir >>= fun
        | none => pure none
        | some (opened, place) => do
          record (·.addHandler name ⟨.file opened place, level⟩)
          return some (logPath dir)) { s with journal := s.journal.meet name } := by
  rw [attach, runOn_record_bind, runOn_get_bind]
  rcases attached_cases ((s.journal.meet name).logger name) (logPath dir)
    { s with journal := s.journal.meet name } with ⟨p, hp, hplace, -⟩ | ⟨e, he, -⟩ | ⟨-, hrun⟩
  · rw [hq] at hplace
    exact absurd (Except.ok.inj hplace).symm (hnew p hp)
  · rw [hq] at he
    cases he
  · rw [logPath] at hrun
    rw [runOn_bind_of_ok hrun, if_neg (by simp)]
    rfl

/-- **The ways in which attaching a log ends.** -/
theorem attach_attaches (name : Text) (dir : Path) (level : ℤ) (s : Session) :
    Attaches name dir level s (runOn (attach name dir level) s).1
      (runOn (attach name dir level) s).2 := by
  rw [attach, runOn_record_bind, runOn_get_bind]
  set s₁ : Session := { s with journal := s.journal.meet name } with hs₁
  rcases attached_cases (s₁.journal.logger name) (logPath dir) s₁ with
    ⟨p, hp, hplace, hrun⟩ | ⟨e, -, hrun⟩ | ⟨hnew, hrun⟩
  · rw [logPath] at hrun
    rw [runOn_bind_of_ok hrun]
    exact .there hp hplace
  · rw [logPath] at hrun
    rw [runOn_bind_of_error hrun]
    exact .refused (by simp) (.refl s.disk)
  rw [logPath] at hrun
  rw [runOn_bind_of_ok hrun, if_neg (by simp)]
  rcases openIn_cases dir s₁ with ⟨r, d, hr, hadds, hrun⟩ | ⟨d', place, hopens, hrun⟩
  · rcases r with e | x
    · rw [runOn_bind_of_error hrun]
      exact .refused (by simp) hadds
    · rw [runOn_bind_of_ok hrun]
      cases x with
      | none => exact .refused (by simp) hadds
      | some x => exact absurd rfl (hr x)
  · rw [runOn_bind_of_ok hrun]
    exact .added hnew hopens

/-- The end of a set-up: the log of the directory that was found is attached, and the
name is ready. -/
def conclude (name : Text) (level : ℤ) (found : Option Path) : Action Text := do
  match found with
  | none => pure ()
  | some dir => discard (attach (loggerName name) dir level)
  record (·.markReady name)
  return loggerName name

end Audit

end TestScaffold
