import TestScaffold.Proofs.Audit.Attaching
import TestScaffold.Proofs.Disk.Straight

/-!
Where the set-up of a logger looks for the directory of its log.

* `Finds` are the ways in which a directory is found, or none: it is given, the
  environment names it, or it is in the first marker on the way to the root.
* `Strays` are the ways in which the search fails. One of the two always happens
  (`finds_or_strays`), and it says what the search comes to (`runOn_of_finds`,
  `runOn_of_strays`).
* `Usual` is what is asked of the session: it works in a directory of its tree, and
  the texts that it looks at can be paths.
-/

namespace TestScaffold

namespace Audit

open TestScaffold.Action

/-! ### The directory of the log -/

/-- The marker that the directory some levels above a directory would have. -/
def markerOf (here : Location) (k : ℕ) : Location := markerName :: here.drop k

/-- The directory of the log in that marker. -/
def logsOf (here : Location) (k : ℕ) : Location := logsName :: markerOf here k

/-- The path of a place. -/
def pathOf (l : Location) : Path := ⟨1, l.reverse⟩

lemma toText_pathOf (l : Location) : (pathOf l).toText = Disk.pathTo l := by
  simp [pathOf, Path.toText, Disk.pathTo]

variable {s : Session} {dir : Text} {x : Option Path} {d : Disk} {f : Failure} {k : ℕ}

/-- The environment names no directory for the log, and neither do the arguments:
it is looked for. -/
structure Searches (s : Session) (dir : Text) : Prop where
  dir : dir = []
  var : ∀ t, s.logDirVar = some t → t = []

/-- The first marker is looked for this many levels above, so far without an
answer. -/
structure Reaches (s : Session) (dir : Text) (k : ℕ) : Prop where
  searches : Searches s dir
  below : ∀ i < k, s.disk.isDirStrict s.here (Disk.pathTo (markerOf s.here i)) = .ok false

/-- The set-up finds a directory for the log, or none, and there is this disk then. -/
inductive Finds (s : Session) (dir : Text) : Option Path → Disk → Prop
  | given (hdir : dir ≠ []) : Finds s dir (some (Path.ofText dir)) s.disk
  | named {t : Text} {d : Disk} (hdir : dir = []) (ht : s.logDirVar = some t) (hne : t ≠ [])
      (hmade : s.disk.makePath s.here (s.host.logRoom + 1) (Path.ofText t) = (.ok (), d)) :
      Finds s dir (some (Path.ofText t)) d
  | marked {k : ℕ} {d : Disk} (hk : k < searchDepth) (hreach : Reaches s dir k)
      (hmarker : s.disk.isDirStrict s.here (Disk.pathTo (markerOf s.here k)) = .ok true)
      (hmade : s.disk.ensureDirStrict s.here (Disk.pathTo (logsOf s.here k)) = .ok d) :
      Finds s dir (some (pathOf (logsOf s.here k))) d
  | nowhere (hreach : Reaches s dir searchDepth) : Finds s dir none s.disk

/-- What the set-up does not guard against while it looks for the directory. -/
inductive Strays (s : Session) (dir : Text) : Failure → Prop
  | named {t : Text} {e : AccessError} (hdir : dir = []) (ht : s.logDirVar = some t) (hne : t ≠ [])
      (hmade : (s.disk.makePath s.here (s.host.logRoom + 1) (Path.ofText t)).1 = .error e) :
      Strays s dir (.ofMaking e)
  | unseen {k : ℕ} {e : AccessError} (hk : k < searchDepth) (hreach : Reaches s dir k)
      (hmarker : s.disk.isDirStrict s.here (Disk.pathTo (markerOf s.here k)) = .error e) :
      Strays s dir (.ofAccess e)
  | blocked {k : ℕ} {e : AccessError} (hk : k < searchDepth) (hreach : Reaches s dir k)
      (hmarker : s.disk.isDirStrict s.here (Disk.pathTo (markerOf s.here k)) = .ok true)
      (hmade : s.disk.ensureDirStrict s.here (Disk.pathTo (logsOf s.here k)) = .error e) :
      Strays s dir (.ofAccess e)

/-- It always comes to a directory, to none, or to something of this kind. -/
lemma finds_or_strays (s : Session) (dir : Text) :
    (∃ x d, Finds s dir x d) ∨ ∃ f, Strays s dir f := by
  by_cases hdir : dir = []
  swap
  · exact .inl ⟨_, _, .given hdir⟩
  by_cases hvar : ∃ t, s.logDirVar = some t ∧ t ≠ []
  · obtain ⟨t, ht, hne⟩ := hvar
    rcases hmade : s.disk.makePath s.here (s.host.logRoom + 1) (Path.ofText t) with ⟨e | u, d⟩
    · exact .inr ⟨_, .named hdir ht hne (by rw [hmade])⟩
    · exact .inl ⟨_, _, .named hdir ht hne hmade⟩
  have hsearches : Searches s dir := ⟨hdir, fun t ht => by_contra fun hne => hvar ⟨t, ht, hne⟩⟩
  let quiet := fun k => s.disk.isDirStrict s.here (Disk.pathTo (markerOf s.here k)) = .ok false
  by_cases hall : ∀ k < searchDepth, quiet k
  · exact .inl ⟨_, _, .nowhere ⟨hsearches, hall⟩⟩
  -- the first level that answers otherwise decides
  push Not at hall
  obtain ⟨k, ⟨hk, hloud⟩, hfirst⟩ : ∃ k, (k < searchDepth ∧ ¬quiet k) ∧ ∀ i < k, quiet i := by
    classical
    refine ⟨Nat.find hall, Nat.find_spec hall, fun i hi => ?_⟩
    by_contra hq
    exact Nat.find_min hall hi ⟨hi.trans (Nat.find_spec hall).1, hq⟩
  have hreach : Reaches s dir k := ⟨hsearches, hfirst⟩
  cases hmarker : s.disk.isDirStrict s.here (Disk.pathTo (markerOf s.here k)) with
  | error e => exact .inr ⟨_, .unseen hk hreach hmarker⟩
  | ok found =>
      cases found with
      | false => exact absurd hmarker hloud
      | true =>
          cases hmade : s.disk.ensureDirStrict s.here (Disk.pathTo (logsOf s.here k)) with
          | error e => exact .inr ⟨_, .blocked hk hreach hmarker hmade⟩
          | ok d => exact .inl ⟨_, _, .marked hk hreach hmarker hmade⟩

/-! ### The search -/

/-- One level of the search, at a directory. -/
lemma runOn_searchUp_succ (depth n : ℕ) (l : List Text) (s : Session) :
    runOn (searchUp (depth + 1) n l) s =
      match s.disk.isDirStrict s.here (Path.toText ⟨n, (markerName :: l).reverse⟩) with
      | .error e => (.error (.ofAccess e), s)
      | .ok true =>
        match s.disk.ensureDirStrict s.here
            (Path.toText ⟨n, (logsName :: markerName :: l).reverse⟩) with
        | .error e => (.error (.ofAccess e), s)
        | .ok d => (.ok (some ⟨n, (logsName :: markerName :: l).reverse⟩), { s with disk := d })
      | .ok false =>
        match l with
        | [] => (.ok none, s)
        | _ :: up => runOn (searchUp depth n up) s := by
  have hchild : (⟨n, (markerName :: l).reverse⟩ : Path).child logsName =
      ⟨n, (logsName :: markerName :: l).reverse⟩ := by
    simp [Path.child]
  rw [searchUp.eq_def]
  dsimp only
  rw [runOn_look_bind, hchild]
  rcases s.disk.isDirStrict s.here (Path.toText ⟨n, (markerName :: l).reverse⟩) with e | found
  · rfl
  cases found with
  | false => cases l <;> rfl
  | true =>
      have hfound : runOn (ofAccess (.ok true)) s = (.ok true, s) := rfl
      rw [runOn_bind_of_ok hfound, if_pos rfl]
      cases hmade : s.disk.ensureDirStrict s.here
          (Path.toText ⟨n, (logsName :: markerName :: l).reverse⟩) with
      | error e =>
          rw [runOn_bind_of_ok (runOn_change_of_error hmade)]
          rfl
      | ok d =>
          rw [runOn_bind_of_ok (runOn_change_of_ok hmade)]
          rfl

/-- These levels are passed without an answer. -/
def Quiet (s : Session) (n : ℕ) (l : List Text) (k : ℕ) : Prop :=
  ∀ i < k, s.disk.isDirStrict s.here (Path.toText ⟨n, (markerName :: l.drop i).reverse⟩) = .ok false

variable {n : ℕ} {l : List Text}

lemma runOn_searchUp_add {depth : ℕ} (hk : k ≤ l.length) (h : Quiet s n l k) :
    runOn (searchUp (depth + k) n l) s = runOn (searchUp depth n (l.drop k)) s := by
  induction k generalizing l with
  | zero => rfl
  | succ k ih =>
      cases l with
      | nil => simp at hk
      | cons c up =>
          have hfirst : s.disk.isDirStrict s.here
              (Path.toText ⟨n, (markerName :: c :: up).reverse⟩) = .ok false := h 0 (Nat.succ_pos k)
          rw [← Nat.add_assoc, runOn_searchUp_succ, hfirst]
          exact ih (Nat.le_of_succ_le_succ hk) fun i hi => h (i + 1) (Nat.succ_le_succ hi)

/-- A search that never gets an answer finds nothing. -/
lemma runOn_searchUp_none {depth : ℕ} (h : Quiet s n l depth) :
    runOn (searchUp depth n l) s = (.ok none, s) := by
  induction depth generalizing l with
  | zero => rfl
  | succ depth ih =>
      have hfirst : s.disk.isDirStrict s.here (Path.toText ⟨n, (markerName :: l).reverse⟩) =
          .ok false := h 0 (Nat.succ_pos depth)
      rw [runOn_searchUp_succ, hfirst]
      cases l with
      | nil => rfl
      | cons c up => exact ih fun i hi => h (i + 1) (Nat.succ_le_succ hi)

/-- The search comes to the first level that gets an answer. Above the root there are no
further levels, so the level is not above it. -/
lemma exists_runOn_searchUp (hk : k < searchDepth) (h : Quiet s n l k)
    (hloud : s.disk.isDirStrict s.here (Path.toText ⟨n, (markerName :: l.drop k).reverse⟩) ≠
      .ok false) :
    ∃ depth, runOn (searchUp searchDepth n l) s = runOn (searchUp (depth + 1) n (l.drop k)) s := by
  have hle : k ≤ l.length := by
    by_contra hlt
    have hsame : l.drop k = l.drop l.length := by
      rw [List.drop_length, List.drop_eq_nil_iff]
      omega
    rw [hsame] at hloud
    exact hloud (h _ (by omega))
  obtain ⟨depth, hdepth⟩ : ∃ depth, searchDepth = depth + 1 + k :=
    ⟨searchDepth - 1 - k, by omega⟩
  exact ⟨depth, by rw [hdepth, runOn_searchUp_add hle h]⟩

lemma Reaches.quiet (hreach : Reaches s dir k) : Quiet s 1 s.here k := fun i hi => by
  have hbelow := hreach.below i hi
  rwa [← toText_pathOf] at hbelow

/-- A session on a tree, in one of its directories, where the log is looked for
at texts that can be paths. -/
structure Usual (s : Session) (dir : Text) : Prop where
  isTree : s.disk.IsTree
  here : s.disk.get? s.here = some .dir
  herePath : s.herePath.isPath
  var : ∀ t, s.logDirVar = some t → t.isPath
  dir : dir.isPath

/-- The directory where the search begins, which is the working directory if there is no
other, as it is spelled. -/
def startPath (s : Session) (start : Text) : Text :=
  (Path.ofText (if start = [] then s.herePath else start)).toText

/-- Where nothing names a directory, the search begins at what its start stands for. -/
lemma runOn_findLogDir_of_canonical {start : Text} {p : Path}
    (hvar : ∀ t, s.logDirVar = some t → t = [])
    (h : s.disk.canonical s.here (startPath s start) = .ok p) :
    runOn (findLogDir start) s = runOn (searchUp searchDepth p.slashes p.parts.reverse) s := by
  have hrun : runOn (canonical (startPath s start)) s = (.ok p, s) := by
    rw [canonical, runOn_look_bind, h]
    rfl
  rw [findLogDir, runOn_get_bind]
  split
  · next c cs hsome => exact absurd (hvar _ hsome) (by simp)
  · rw [startPath] at hrun
    split
    · next hnil =>
        rw [if_pos hnil] at hrun
        rw [runOn_herePath_bind]
        exact runOn_bind_of_ok hrun _
    · next hne =>
        rw [if_neg hne] at hrun
        exact runOn_bind_of_ok hrun _

/-- In a directory of a tree, that is the working directory. -/
lemma runOn_findLogDir_of_searches (hs : Usual s dir) (h : Searches s dir) :
    runOn (findLogDir []) s = runOn (searchUp searchDepth 1 s.here) s := by
  have hnames : ∀ c ∈ s.here, Path.IsName c := hs.isTree.isName_of_mem (by simp [hs.here])
  have hplace : Disk.placeOf s.here (Disk.pathTo s.here) = s.here := by
    have horigin : Disk.origin s.here (Disk.pathTo s.here) = [] := by
      simp [Disk.origin, Disk.pathTo]
    rw [Disk.placeOf, horigin, Disk.steps_pathTo hnames, Path.lexical_reverse hnames]
  have hstart : startPath s [] = Disk.pathTo s.here := by
    rw [startPath, if_pos rfl, Session.herePath, Disk.toText_ofText_pathTo hnames]
  have hcanonical : s.disk.canonical s.here (startPath s []) = .ok (pathOf s.here) := by
    have heq := Disk.canonical_of_straight_of_isPath hs.isTree hs.here
      (hs.isTree.straight_pathTo hs.here s.here) hs.herePath (by rw [hplace]; exact hs.herePath)
    rw [hstart, heq, hplace, Disk.ofText_pathTo hnames, pathOf]
  rw [runOn_findLogDir_of_canonical h.var hcanonical, pathOf, List.reverse_reverse]

/-- Where the environment names a directory, nothing is searched. -/
lemma runOn_findLogDir_of_var {t : Text} (start : Text) (ht : s.logDirVar = some t)
    (hne : t ≠ []) :
    runOn (findLogDir start) s =
      match s.disk.makePath s.here (s.host.logRoom + 1) (Path.ofText t) with
      | (.ok (), d) => (.ok (some (Path.ofText t)), { s with disk := d })
      | (.error e, d) => (.error (.ofMaking e), { s with disk := d }) := by
  have hmade := runOn_changeMost (s := s) fun d here =>
    d.makePath here (s.host.logRoom + 1) (Path.ofText t)
  rw [findLogDir, runOn_get_bind]
  split
  · next c cs hvar =>
      obtain rfl := Option.some.inj (ht.symm.trans hvar)
      rw [runOn_host_bind, runOn_bind_of_ok hmade]
      rcases s.disk.makePath s.here (s.host.logRoom + 1) (Path.ofText (c :: cs)) with ⟨e | u, d⟩
      · rfl
      · rfl
  · next hnone =>
      obtain ⟨c, cs, rfl⟩ := List.exists_cons_of_ne_nil hne
      exact absurd ht (hnone c cs)

/-- The action that comes to the directory of a log. -/
def chooseDir (dir : Text) : Action (Option Path) :=
  if dir = [] then findLogDir [] else pure (some (Path.ofText dir))

lemma runOn_named {t : Text} (hdir : dir = []) (ht : s.logDirVar = some t) (hne : t ≠ []) :
    runOn (chooseDir dir) s =
      match s.disk.makePath s.here (s.host.logRoom + 1) (Path.ofText t) with
      | (.ok (), d) => (.ok (some (Path.ofText t)), { s with disk := d })
      | (.error e, d) => (.error (.ofMaking e), { s with disk := d }) := by
  rw [chooseDir, if_pos hdir, runOn_findLogDir_of_var [] ht hne]

/-- The search comes to the level that gets an answer. -/
lemma exists_runOn_of_reaches (hs : Usual s dir) (hk : k < searchDepth) (hreach : Reaches s dir k)
    (h : s.disk.isDirStrict s.here (pathOf (markerOf s.here k)).toText ≠ .ok false) :
    ∃ depth, runOn (chooseDir dir) s = runOn (searchUp (depth + 1) 1 (s.here.drop k)) s := by
  obtain ⟨depth, hrun⟩ := exists_runOn_searchUp hk hreach.quiet h
  refine ⟨depth, ?_⟩
  rw [chooseDir, if_pos hreach.searches.dir, runOn_findLogDir_of_searches hs hreach.searches, hrun]

/-- **The directory that is found is the one that the set-up takes.** -/
lemma runOn_of_finds (hs : Usual s dir) (h : Finds s dir x d) :
    runOn (chooseDir dir) s = (.ok x, { s with disk := d }) := by
  cases h with
  | given hdir => rw [chooseDir, if_neg hdir, runOn_pure]
  | named hdir ht hne hmade => rw [runOn_named hdir ht hne, hmade]
  | marked hk hreach hmarker hmade =>
      rw [← toText_pathOf] at hmarker hmade
      obtain ⟨depth, hrun⟩ := exists_runOn_of_reaches hs hk hreach (by simp [hmarker])
      rw [pathOf, markerOf] at hmarker
      rw [pathOf, logsOf, markerOf] at hmade
      rw [hrun, runOn_searchUp_succ, hmarker]
      dsimp only
      rw [hmade]
      rfl
  | nowhere hreach =>
      rw [chooseDir, if_pos hreach.searches.dir, runOn_findLogDir_of_searches hs hreach.searches,
        runOn_searchUp_none hreach.quiet]

/-- **What is not guarded against is what the search fails with.** -/
lemma runOn_of_strays (hs : Usual s dir) (h : Strays s dir f) :
    (runOn (chooseDir dir) s).1 = .error f := by
  cases h with
  | @named t e hdir ht hne hmade =>
      rw [runOn_named hdir ht hne]
      rcases hrun : s.disk.makePath s.here (s.host.logRoom + 1) (Path.ofText t) with ⟨e' | u, d⟩
      · rw [hrun] at hmade
        rw [← Except.error.inj hmade]
      · rw [hrun] at hmade
        cases hmade
  | unseen hk hreach hmarker =>
      rw [← toText_pathOf] at hmarker
      obtain ⟨depth, hrun⟩ := exists_runOn_of_reaches hs hk hreach (by simp [hmarker])
      rw [pathOf, markerOf] at hmarker
      rw [hrun, runOn_searchUp_succ, hmarker]
  | blocked hk hreach hmarker hmade =>
      rw [← toText_pathOf] at hmarker hmade
      obtain ⟨depth, hrun⟩ := exists_runOn_of_reaches hs hk hreach (by simp [hmarker])
      rw [pathOf, markerOf] at hmarker
      rw [pathOf, logsOf, markerOf] at hmade
      rw [hrun, runOn_searchUp_succ, hmarker]
      dsimp only
      rw [hmade]

/-! ### The journal does not matter -/

variable {j : Journal}

lemma Searches.withJournal (h : Searches s dir) (j : Journal) :
    Searches { s with journal := j } dir := ⟨h.dir, h.var⟩

lemma Reaches.withJournal (h : Reaches s dir k) (j : Journal) :
    Reaches { s with journal := j } dir k := ⟨h.searches.withJournal j, h.below⟩

lemma Finds.withJournal (h : Finds s dir x d) (j : Journal) :
    Finds { s with journal := j } dir x d := by
  cases h with
  | given hdir => exact .given hdir
  | named hdir ht hne hmade => exact .named hdir ht hne hmade
  | marked hk hreach hmarker hmade => exact .marked hk (hreach.withJournal j) hmarker hmade
  | nowhere hreach => exact .nowhere (hreach.withJournal j)

lemma Strays.withJournal (h : Strays s dir f) (j : Journal) :
    Strays { s with journal := j } dir f := by
  cases h with
  | named hdir ht hne hmade => exact .named hdir ht hne hmade
  | unseen hk hreach hmarker => exact .unseen hk (hreach.withJournal j) hmarker
  | blocked hk hreach hmarker hmade => exact .blocked hk (hreach.withJournal j) hmarker hmade

lemma Usual.withJournal (h : Usual s dir) (j : Journal) : Usual { s with journal := j } dir :=
  ⟨h.isTree, h.here, h.herePath, h.var, h.dir⟩

end Audit

end TestScaffold
