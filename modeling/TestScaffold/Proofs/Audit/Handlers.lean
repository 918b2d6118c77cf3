import Mathlib
import TestScaffold.Proofs.Audit.Attaching
import TestScaffold.Proofs.Disk.Straight
import TestScaffold.Proofs.Journal.Tuned

/-!
The files of a logger, over any number of steps.

* `Move` are the steps: loggers are set up or only named, logs are attached,
  levels are changed, records are made, and the working directory changes.
* `attach_cases`: what attaching a log with a straight path does to an orderly
  session. It is added only where no file of the logger stands at its place.
* `Session.Orderly` is kept by all moves whose logs have straight paths
  (`orderly_perform`): the path of a file is the spelling of its place, and no
  logger has two files at one place. So it holds after every run of such moves
  (`orderly_performAll`). Without links all paths are straight, but for those that
  begin with exactly two slashes (`straight_of_takes`, `Disk.LinkFree.straight`).
* `one_handler_per_file` is what follows for the handlers of a logger. Paths that
  are not straight are attached twice (`attach_twice`).
-/

namespace TestScaffold

/-- The place of the file, for a sink that is one. -/
def Sink.place? : Sink → Option Location
  | .file _ place => some place
  | _ => none

/-- The paths of the files are the spellings of their places, and no two files
stand at one place. -/
structure Sink.Apart (ks : List Sink) : Prop where
  spelled : ∀ path place, Sink.file path place ∈ ks → path = Disk.pathTo place
  nodup : (ks.filterMap place?).Nodup

namespace Sink.Apart

variable {ks : List Sink} {l : Location}

/-- One more sink that is no file. -/
lemma concat {k : Sink} (h : Apart ks) (hk : k.place? = none) : Apart (ks ++ [k]) := by
  refine ⟨fun path place hmem => ?_, by simpa [hk] using h.nodup⟩
  rcases List.mem_append.mp hmem with hmem | hmem
  · exact h.spelled path place hmem
  · obtain rfl := List.mem_singleton.mp hmem
    cases hk

/-- One more file, at a place where none of the others stands. -/
lemma concat_file (h : Apart ks) (hl : l ∉ ks.filterMap place?) :
    Apart (ks ++ [.file (Disk.pathTo l) l]) := by
  refine ⟨fun path place hmem => ?_, ?_⟩
  · rcases List.mem_append.mp hmem with hmem | hmem
    · exact h.spelled path place hmem
    · obtain ⟨rfl, rfl⟩ := Sink.file.inj (List.mem_singleton.mp hmem)
      rfl
  · rw [List.filterMap_append]
    exact h.nodup.append (by simp [place?]) (by simpa [place?] using hl)

end Sink.Apart

/-! ### Sinks of a logger -/

namespace Journal

/-- Where the handlers of a logger write. -/
def outlets (j : Journal) (name : Text) : List Sink := (j.logger name).handlers.map (·.sink)

variable {j j' : Journal} {name : Text}

lemma outlets_of_loggers (h : j'.loggers = j.loggers) : j'.outlets = j.outlets := by
  funext n
  rw [outlets, outlets, logger, logger, h]

/-- The sinks where one logger has another state. -/
lemma outlets_of_update {l : Logger} (h : j'.logger = Function.update j.logger name l) :
    j'.outlets = Function.update j.outlets name (l.handlers.map (·.sink)) := by
  funext n
  rw [outlets, h, Function.apply_update fun _ (l : Logger) => l.handlers.map (·.sink)]
  rfl

/-- At first only the root has handlers. -/
lemma mem_outlets_start {root : Logger} {names : List Text} {k : Sink}
    (h : k ∈ (start root names).outlets name) : k ∈ root.handlers.map (·.sink) := by
  rw [outlets, logger, start, List.lookup_cons] at h
  split at h
  · exact h
  · simp [Logger.fresh] at h

lemma outlets_setLevel (j : Journal) (name : Text) (level : ℤ) :
    (j.setLevel name level).outlets = j.outlets :=
  (outlets_of_update (logger_setLevel j name level)).trans (Function.update_eq_self _ _)

lemma outlets_addHandler (j : Journal) (name : Text) (h : Handler) :
    (j.addHandler name h).outlets =
      Function.update j.outlets name (j.outlets name ++ [h.sink]) := by
  rw [outlets_of_update (logger_addHandler j name h), List.map_append]
  rfl

end Journal

/-- On a tree, in one of its directories, every logger has its files apart. -/
structure Session.Orderly (s : Session) : Prop where
  isTree : s.disk.IsTree
  here : s.disk.get? s.here = some .dir
  apart : ∀ name, Sink.Apart (s.journal.outlets name)

namespace Session.Orderly

variable {s s' : Session} {d : Disk} {j : Journal}

lemma isName_here (h : s.Orderly) : ∀ c ∈ s.here, Path.IsName c :=
  h.isTree.isName_of_mem (by simp [h.here])

lemma of_adds (h : s.Orderly) (hd : s.disk.Adds d) : { s with disk := d }.Orderly :=
  ⟨hd.isTree h.isTree, hd.get?_of_some h.here, h.apart⟩

lemma of_outlets (h : s.Orderly) (hj : j.outlets = s.journal.outlets) :
    { s with journal := j }.Orderly :=
  ⟨h.isTree, h.here, fun name => by
    change Sink.Apart (j.outlets name)
    rw [hj]
    exact h.apart name⟩

/-- One more sink of a logger. -/
lemma addHandler (name : Text) {x : Handler} (h : s.Orderly)
    (hx : Sink.Apart (s.journal.outlets name ++ [x.sink])) :
    { s with journal := s.journal.addHandler name x }.Orderly := by
  refine ⟨h.isTree, h.here, fun n => ?_⟩
  change Sink.Apart ((s.journal.addHandler name x).outlets n)
  rw [Journal.outlets_addHandler]
  by_cases hn : n = name
  · subst hn
    rwa [Function.update_self]
  · rw [Function.update_of_ne hn]
    exact h.apart n

end Session.Orderly

namespace Audit

open TestScaffold.Action

variable {s : Session} {dir : Text} {p : Path}

/-! ### Attaching -/

/-- The place of the log in a directory. -/
def logPlace (here : Location) (dir : Path) : Location := Disk.placeOf here (logPath dir).toText

/-- A log with a straight path is opened at its place. -/
lemma OpensAt.place_eq {d' : Disk} {place : Location} (htree : s.disk.IsTree)
    (hhere : s.disk.get? s.here = some .dir)
    (hp : s.disk.Straight s.here (logPath p).toText) (h : OpensAt s p d' place) :
    place = logPlace s.here p := by
  obtain ⟨d, hmade, hopen⟩ := h
  have hadds := s.disk.makePath_adds s.here (s.host.logRoom + 1) p
  rw [hmade] at hadds
  exact Disk.openLog_of_straight htree hhere hp hadds hopen

lemma mem_paths_iff {l : Logger} {path : Text} :
    path ∈ paths l ↔ ∃ place, Sink.file path place ∈ l.handlers.map (·.sink) := by
  constructor
  · intro h
    obtain ⟨x, hx, hpath⟩ := List.mem_filterMap.mp h
    rw [Handler.path?] at hpath
    split at hpath
    · next path' place hsink =>
        obtain rfl := Option.some.inj hpath
        exact ⟨place, List.mem_map.mpr ⟨x, hx, hsink⟩⟩
    · cases hpath
  · rintro ⟨place, hmem⟩
    obtain ⟨x, hx, hsink⟩ := List.mem_map.mp hmem
    exact List.mem_filterMap.mpr ⟨x, hx, by simp [Handler.path?, hsink]⟩

/-- **What attaching a log does.** The loggers stay as they are, or the log is
added, at a place where the logger has no file yet. -/
theorem attach_cases (name : Text) (level : ℤ) (hs : s.Orderly)
    (hp : s.disk.Straight s.here (logPath p).toText) :
    ∃ d j, s.disk.Adds d ∧
      (runOn (attach name p level) s).2 = { s with disk := d, journal := j } ∧
      (j.loggers = s.journal.loggers ∨
        logPlace s.here p ∉ (s.journal.outlets name).filterMap Sink.place? ∧
          j = (s.journal.meet name).addHandler name
            ⟨.file (Disk.pathTo (logPlace s.here p)) (logPlace s.here p), level⟩) := by
  have hattaches := attach_attaches name p level s
  generalize (runOn (attach name p level) s).1 = r, (runOn (attach name p level) s).2 = s'
    at hattaches
  cases hattaches with
  | there => exact ⟨s.disk, _, .refl _, rfl, .inl rfl⟩
  | @refused _ d _ hadds => exact ⟨d, _, hadds, rfl, .inl rfl⟩
  | @added d' place hnew hopens =>
      have hpath : openedAt s.here p = Disk.pathTo (logPlace s.here p) :=
        Disk.absolute_eq_pathTo_of_slashes hs.isName_here hp.slashes
      obtain rfl : place = logPlace s.here p := hopens.place_eq hs.isTree hs.here hp
      refine ⟨d', _, hopens.adds.1, rfl, .inr ⟨?_, by rw [hpath]⟩⟩
      -- a file at the place would have been opened under the path that is asked for
      intro hmem
      obtain ⟨k, hk, hplace⟩ := List.mem_filterMap.mp hmem
      obtain ⟨path, rfl⟩ : ∃ path, k = .file path (logPlace s.here p) := by
        cases k with
        | file path place => exact ⟨path, by rw [Option.some.inj hplace]⟩
        | _ => cases hplace
      have hin : path ∈ paths ((s.journal.meet name).logger name) := mem_paths_iff.mpr ⟨_, hk⟩
      obtain ⟨q, hq, hnone⟩ := hnew (List.ne_nil_of_mem hin)
      refine hnone path hin ?_
      rw [Disk.eq_of_canonical hs.isTree hs.here hp hq, (hs.apart name).spelled path _ hk]
      rfl

/-- A handler of the logger has the path of the log. -/
def IsAttached (s : Session) (name : Text) (dir : Path) : Prop :=
  ∃ p ∈ paths (s.journal.logger name),
    s.disk.canonical s.here (logPath dir).toText = .ok (Path.ofText p)

lemma loggers_of_isAttached (level : ℤ) {name : Text} (h : IsAttached s name p) :
    ∃ d j, s.disk.Adds d ∧ j.loggers = s.journal.loggers ∧
      (runOn (attach name p level) s).2 = { s with disk := d, journal := j } := by
  obtain ⟨path, hpath, hplace⟩ := h
  have hattaches := attach_attaches name p level s
  generalize (runOn (attach name p level) s).1 = r, (runOn (attach name p level) s).2 = s'
    at hattaches
  cases hattaches with
  | there => exact ⟨s.disk, s.journal.meet name, .refl _, rfl, rfl⟩
  | @refused _ d _ hadds => exact ⟨d, s.journal.meet name, hadds, rfl, rfl⟩
  | added hnew hopens =>
      obtain ⟨q, hq, hnone⟩ := hnew (List.ne_nil_of_mem hpath)
      rw [hplace] at hq
      exact absurd (Except.ok.inj hq) (hnone path hpath)

lemma orderly_attach (name : Text) (level : ℤ) (hs : s.Orderly)
    (hp : IsAttached s name p ∨ s.disk.Straight s.here (logPath p).toText) :
    (runOn (attach name p level) s).2.Orderly := by
  rcases hp with hp | hp
  · obtain ⟨d, j, hd, hj, hrun⟩ := loggers_of_isAttached level hp
    rw [hrun]
    exact (hs.of_adds hd).of_outlets (Journal.outlets_of_loggers hj)
  obtain ⟨d, j, hd, hrun, hj | ⟨hplace, rfl⟩⟩ := attach_cases name level hs hp
  · rw [hrun]
    exact (hs.of_adds hd).of_outlets (Journal.outlets_of_loggers hj)
  · rw [hrun]
    have hmeet := (hs.of_adds hd).of_outlets (j := s.journal.meet name) rfl
    exact hmeet.addHandler name ((hs.apart name).concat_file hplace)

/-! ### Setting up -/

/-- The set-up takes the directory for its log, whatever is in the journal. -/
def Takes (s : Session) (dir : Text) (found : Path) : Prop :=
  ∃ j s', runOn (if dir = [] then findLogDir [] else pure (some (Path.ofText dir)))
    { s with journal := j } = (.ok (some found), s')

/-- The name has not been set up, and its logger has no handlers. -/
def IsNew (s : Session) (name : Text) : Prop :=
  ∃ n, runOn (setUpName name) s = (.ok n, s) ∧ n ∉ s.journal.ready ∧
    (s.journal.logger (loggerName n)).handlers = []

lemma runOn_setUpName (name : Text) (s : Session) :
    ∃ n, runOn (setUpName name) s = (.ok n, s) := by
  rw [setUpName]
  split
  · rw [runOn_get_bind]
    split <;> exact ⟨_, rfl⟩
  · exact ⟨_, rfl⟩

/-- The directory is looked for, and then comes a step that keeps the files
apart if the log in the directory has a straight path. -/
lemma orderly_take {j : Journal} {k : Option Path → Action Text}
    (hs : { s with journal := j }.Orderly)
    (hdir : ∀ found, Takes s dir found → s.disk.Straight s.here (logPath found).toText)
    (hk : ∀ found s₁, s₁.Orderly →
      (∀ d, found = some d → s₁.disk.Straight s₁.here (logPath d).toText) →
        (runOn (k found) s₁).2.Orderly) :
    (runOn (if dir = [] then findLogDir [] >>= k else pure (some (Path.ofText dir)) >>= k)
      { s with journal := j }).2.Orderly := by
  have hone : (if dir = [] then findLogDir [] >>= k else pure (some (Path.ofText dir)) >>= k) =
      (if dir = [] then findLogDir [] else pure (some (Path.ofText dir))) >>= k := by
    split <;> rfl
  have hmakes : OnlyMakes (if dir = [] then findLogDir [] else pure (some (Path.ofText dir))) :=
    .ite (findLogDir_onlyMakes []) (.pure _)
  rw [hone]
  obtain ⟨d, hadds, hd⟩ := hmakes { s with journal := j }
  rcases hrun : runOn (if dir = [] then findLogDir [] else pure (some (Path.ofText dir)))
    { s with journal := j } with ⟨e | found, s₁⟩
  · rw [runOn_bind_of_error hrun]
    obtain rfl : s₁ = _ := by simpa [hrun] using hd
    exact hs.of_adds hadds
  · rw [runOn_bind_of_ok hrun]
    obtain rfl : s₁ = _ := by simpa [hrun] using hd
    refine hk found _ (hs.of_adds hadds) fun p hp => ?_
    exact (hdir p ⟨j, _, hp ▸ hrun⟩).adds hadds

lemma orderly_setUp {name : Text} (level : ℤ) (hs : s.Orderly)
    (hdir : IsNew s name → ∀ found, Takes s dir found →
      s.disk.Straight s.here (logPath found).toText) :
    (runOn (setUp name dir level) s).2.Orderly := by
  obtain ⟨n, hname⟩ := runOn_setUpName name s
  rw [setUp, runOn_bind_of_ok hname, runOn_get_bind]
  dsimp only
  split
  · exact hs
  next hready =>
  have houtlets := Journal.outlets_setLevel (s.journal.meet (loggerName n)) (loggerName n) level
  have hlevel := hs.of_outlets houtlets
  rw [runOn_record_bind, runOn_get_bind]
  split
  · exact hlevel.of_outlets rfl
  next hempty =>
  -- a logger without handlers that is not ready is one for which a log is looked for
  have hnew : IsNew s name := by
    have hnone : ((s.journal.meet (loggerName n)).setLevel (loggerName n) level).outlets
        (loggerName n) = [] := List.map_eq_nil_iff.mpr (not_not.mp hempty)
    rw [houtlets] at hnone
    exact ⟨n, hname, hready, List.map_eq_nil_iff.mp hnone⟩
  have hconsole := hlevel.addHandler (loggerName n) (x := ⟨.console, Level.warning⟩)
    ((hlevel.apart _).concat rfl)
  rw [runOn_record_bind]
  refine orderly_take hconsole (hdir hnew) fun found s₁ hs₁ hfound => ?_
  cases found with
  | none => exact hs₁.of_outlets rfl
  | some d =>
      have hattach := orderly_attach (loggerName n) level hs₁ (.inr (hfound d rfl))
      rw [← runOn_discard_snd] at hattach
      rcases hrun : runOn (discard (attach (loggerName n) d level)) s₁ with ⟨e | u, s₂⟩
      · rw [hrun] at hattach
        rw [runOn_bind_of_error hrun]
        exact hattach
      · rw [hrun] at hattach
        rw [runOn_bind_of_ok hrun]
        exact hattach.of_outlets rfl

lemma canonical_eq_ok {path : Text} {s' : Session} {q : Path}
    (h : runOn (canonical path) s = (.ok q, s')) : s.disk.canonical s.here path = .ok q := by
  rw [canonical, runOn_look_bind] at h
  cases hq : s.disk.canonical s.here path with
  | ok q' =>
      rw [hq] at h
      exact congrArg Except.ok (Except.ok.inj (Prod.mk.inj h).1)
  | error e =>
      rw [hq] at h
      cases (Prod.mk.inj h).1

/-- What is found in the marker of a directory has the names of the directory. -/
lemma searchUp_eq_some {depth slashes : ℕ} {parts : List Text} {s s' : Session} {found : Path}
    (h : runOn (searchUp depth slashes parts) s = (.ok (some found), s')) :
    found.slashes = slashes ∧ ∀ c ∈ found.parts, c ∈ parts ∨ c = markerName ∨ c = logsName := by
  induction depth generalizing parts s with
  | zero => simp [searchUp] at h
  | succ depth ih =>
      unfold searchUp at h
      obtain ⟨x, s₁, -, h⟩ := runOn_bind_eq_ok.mp h
      obtain ⟨b, s₂, -, h⟩ := runOn_bind_eq_ok.mp h
      split at h
      · obtain ⟨y, s₃, -, h⟩ := runOn_bind_eq_ok.mp h
        obtain ⟨u, s₄, -, h⟩ := runOn_bind_eq_ok.mp h
        obtain ⟨h, -⟩ := Prod.mk.inj h
        obtain rfl := Option.some.inj (Except.ok.inj h)
        refine ⟨rfl, fun c hc => ?_⟩
        simp only [Path.child, List.reverse_cons, List.append_assoc, List.mem_append,
          List.mem_reverse, List.mem_cons, List.not_mem_nil, or_false] at hc
        exact hc
      · cases parts with
        | nil => simp at h
        | cons c above =>
            obtain ⟨hslashes, hparts⟩ := ih h
            exact ⟨hslashes, fun b hb => (hparts b hb).imp_left (List.mem_cons_of_mem c)⟩

lemma leadingSlashes_logPath {found : Path} (hslashes : found.slashes ≤ 1)
    (hparts : ∀ c ∈ found.parts, c ≠ [] ∧ char '/' ∉ c) :
    Path.leadingSlashes (logPath found).toText ≠ 2 := by
  refine Path.leadingSlashes_toText hslashes fun c hc => ?_
  rcases List.mem_append.mp hc with hc | hc
  · exact hparts c hc
  · obtain rfl := List.mem_singleton.mp hc
    decide

lemma leadingSlashes_logPath_ofText {t : Text} (h : Path.leadingSlashes t ≠ 2) :
    Path.leadingSlashes (logPath (Path.ofText t)).toText ≠ 2 :=
  leadingSlashes_logPath (Path.slashes_ofText_le h) (Path.parts_ofText t)

/-- Without links the search for a marker starts from the place of the working
directory. -/
lemma leadingSlashes_of_search {s' : Session} {found : Path} (htree : s.disk.IsTree)
    (hhere : s.disk.get? s.here = some .dir) (hlinks : s.disk.LinkFree)
    (h : runOn (do
      let p ← canonical (Path.ofText (Disk.pathTo s.here)).toText
      searchUp searchDepth p.slashes p.parts.reverse) s = (.ok (some found), s')) :
    Path.leadingSlashes (logPath found).toText ≠ 2 := by
  have hname : ∀ c ∈ s.here, Path.IsName c := htree.isName_of_mem (by simp [hhere])
  have hslashes : ∀ l : Location, (∀ c ∈ l, Path.IsName c) →
      (Path.ofText (Disk.pathTo l)).slashes ≤ 1 :=
    fun l hl => Path.slashes_ofText_le (Disk.leadingSlashes_pathTo hl)
  have hstraight : s.disk.Straight s.here (Path.ofText (Disk.pathTo s.here)).toText :=
    hlinks.straight (Path.leadingSlashes_toText (hslashes _ hname) (Path.parts_ofText _))
  obtain ⟨q, s₁, hq, h⟩ := runOn_bind_eq_ok.mp h
  obtain rfl := Disk.eq_of_canonical htree hhere hstraight (canonical_eq_ok hq)
  obtain ⟨hsame, hparts⟩ := searchUp_eq_some h
  refine leadingSlashes_logPath ?_ fun c hc => ?_
  · rw [hsame]
    exact hslashes _ (Disk.isName_placeOf hname _)
  · rcases hparts c hc with hc | rfl | rfl
    · exact Path.parts_ofText _ c (List.mem_reverse.mp hc)
    · decide
    · decide

/-- **Without links the log of a set-up has a straight path**, unless its directory
is spelled with exactly two slashes at its beginning. -/
theorem straight_of_takes {found : Path} (hs : s.Orderly)
    (hlinks : s.disk.LinkFree) (hdir : Path.leadingSlashes dir ≠ 2)
    (henv : ∀ t, s.logDirVar = some t → Path.leadingSlashes t ≠ 2) (h : Takes s dir found) :
    s.disk.Straight s.here (logPath found).toText := by
  refine hlinks.straight ?_
  obtain ⟨j, s', h⟩ := h
  split at h
  · rw [findLogDir, runOn_get_bind] at h
    dsimp only at h
    split at h
    · next c cs hvar =>
        rw [runOn_host_bind] at h
        obtain ⟨x, s₁, -, h⟩ := runOn_bind_eq_ok.mp h
        cases x with
        | error e => exact absurd (Prod.mk.inj h).1 (by simp)
        | ok u =>
            obtain ⟨h, -⟩ := Prod.mk.inj h
            obtain rfl := Option.some.inj (Except.ok.inj h)
            exact leadingSlashes_logPath_ofText (henv _ hvar)
    · rw [if_pos rfl, runOn_herePath_bind] at h
      exact leadingSlashes_of_search (s := { s with journal := j }) hs.isTree hs.here hlinks h
  · obtain ⟨h, -⟩ := Prod.mk.inj h
    obtain rfl := Option.some.inj (Except.ok.inj h)
    exact leadingSlashes_logPath_ofText hdir

/-! ### Moves -/

/-- What can be done to the loggers, with the places that a run works at. -/
inductive Move
  | setUp (name dir : Text) (level : ℤ)
  | meet (name : Text)
  | attach (name : Text) (dir : Path) (level : ℤ)
  | setLevel (name : Text) (level : ℤ)
  | log (r : Record)
  | chdir (l : Location)

namespace Move

/-- The session after a move, whatever the move ends with. -/
def perform (s : Session) : Move → Session
  | setUp name dir level => (runOn (Audit.setUp name dir level) s).2
  | meet name => { s with journal := s.journal.meet name }
  | attach name dir level => (runOn (Audit.attach name dir level) s).2
  | setLevel name level => (runOn (Audit.setLevel name level) s).2
  | log r => s.log r
  | chdir l => { s with here := l }

/-- The paths of the logs that may be added are straight, and the working
directory is one. -/
def IsStraight (s : Session) : Move → Prop
  | setUp name dir _ => IsNew s name → ∀ found, Takes s dir found →
      s.disk.Straight s.here (logPath found).toText
  | attach name dir _ => IsAttached s name dir ∨ s.disk.Straight s.here (logPath dir).toText
  | chdir l => s.disk.get? l = some .dir
  | _ => True

/-- A new level of a logger and its handlers leaves the sinks as they are. -/
lemma outlets_setLevel (s : Session) (name : Text) (level : ℤ) :
    (perform s (.setLevel name level)).journal.outlets = s.journal.outlets := by
  have hlevel := Journal.outlets_setLevel (s.journal.meet name) name level
  set j := (s.journal.meet name).setLevel name level with hj
  have hset : (perform s (.setLevel name level)).journal.outlets =
      Function.update j.outlets name (j.outlets name) := by
    refine (Journal.outlets_of_update (Journal.logger_set j name _)).trans ?_
    rw [List.map_map]
    rfl
  rw [hset, Function.update_eq_self, hlevel]
  rfl

/-- **No move puts two files of a logger at one place.** -/
theorem orderly_perform {m : Move} (hs : s.Orderly) (hm : m.IsStraight s) :
    (m.perform s).Orderly := by
  cases m with
  | setUp name dir level => exact orderly_setUp level hs hm
  | meet name => exact hs.of_outlets rfl
  | attach name dir level => exact orderly_attach name level hs hm
  | setLevel name level => exact hs.of_outlets (outlets_setLevel s name level)
  | log r =>
      have htold := Session.OnlyTold.log s r
      refine ⟨htold.disk.isTree hs.isTree, ?_, fun n => ?_⟩
      · rw [perform, htold.here]
        exact htold.disk.grows.get?_dir hs.here
      · rw [perform, Journal.outlets_of_loggers htold.loggers]
        exact hs.apart n
  | chdir l => exact ⟨hs.isTree, hm, hs.apart⟩

/-- The session after some moves. -/
def performAll (s : Session) (ms : List Move) : Session := ms.foldl perform s

/-- Every move has straight paths, in the session that it is made in. -/
def AllStraight (s : Session) : List Move → Prop
  | [] => True
  | m :: ms => m.IsStraight s ∧ AllStraight (m.perform s) ms

/-- **After any number of moves every logger has its files apart.** -/
theorem orderly_performAll {s : Session} {ms : List Move} (hs : s.Orderly)
    (hms : AllStraight s ms) :
    (performAll s ms).Orderly := by
  induction ms generalizing s with
  | nil => exact hs
  | cons m ms ih => exact ih (orderly_perform hs hms.1) hms.2

end Move

/-! ### Handlers -/

open Move (performAll AllStraight)

lemma countP_standsAt (hs : List Handler) (l : Location) :
    hs.countP (·.sink.standsAt l) = ((hs.map (·.sink)).filterMap Sink.place?).count l := by
  rw [List.count, List.countP_filterMap, List.countP_map]
  refine List.countP_congr fun x _ => ?_
  cases hx : x.sink <;> simp [Sink.standsAt, Sink.place?, hx]

/-- **One handler for each file.** From a session on a tree whose loggers have no
files, after any number of moves on straight paths: no logger has two files at one
place, so its handlers write no record to a file more than once; and where a logger
has a file at the place of a log, whatever path that log was attached under,
attaching it again changes no logger. -/
theorem one_handler_per_file {ms : List Move} (htree : s.disk.IsTree)
    (hhere : s.disk.get? s.here = some .dir)
    (hfresh : ∀ name, ∀ k ∈ s.journal.outlets name, k.place? = none) (hms : AllStraight s ms)
    (name : Text) :
    let s' := performAll s ms
    let hs := (s'.journal.logger name).handlers
    (∀ l, hs.countP (·.sink.standsAt l) ≤ 1) ∧ (∀ (r : Record) l, r.copies hs (·.standsAt l) ≤ 1) ∧
      ∀ dir level, s'.disk.Straight s'.here (logPath dir).toText →
        (∃ h ∈ hs, h.sink.standsAt (logPlace s'.here dir)) →
          (runOn (attach name dir level) s').2.journal.loggers = s'.journal.loggers := by
  intro s' hs
  have hstart : s.Orderly := by
    refine ⟨htree, hhere, fun n => ⟨fun path place hk => ?_, ?_⟩⟩
    · cases hfresh n _ hk
    · rw [List.filterMap_eq_nil_iff.mpr (hfresh n)]
      exact List.nodup_nil
  have horderly : s'.Orderly := Move.orderly_performAll hstart hms
  have hcount : ∀ l, hs.countP (·.sink.standsAt l) ≤ 1 := by
    intro l
    rw [countP_standsAt]
    exact List.nodup_iff_count_le_one.mp (horderly.apart name).nodup l
  refine ⟨hcount, fun r l => le_trans ?_ (hcount l), fun dir level hdir ⟨h, hmem, hstands⟩ => ?_⟩
  · exact List.countP_mono_left fun x _ hx => (Bool.and_eq_true_iff.mp hx).2
  · obtain ⟨d, j, -, hrun, hj | ⟨hnew, -⟩⟩ := attach_cases name level horderly hdir
    · rw [hrun]
      exact hj
    · have hpos : 0 < hs.countP (·.sink.standsAt (logPlace s'.here dir)) :=
        List.countP_pos_iff.mpr ⟨h, hmem, hstands⟩
      rw [countP_standsAt] at hpos
      exact absurd (List.count_pos_iff.mp hpos) hnew

/-- A session with one directory, and a link to it. -/
def linked : Session where
  host := .lenient 984 981 .late
  disk := ⟨[(["link".toText], .link "real".toText), (["real".toText], .dir)]⟩
  here := []
  settingsVar := none
  logDirVar := none
  arguments := []
  stamp := []
  elapsed := []
  journal := .start ⟨Level.debug, [⟨.collection, 0⟩]⟩ Generator.loggers
  stdout := []
  stderr := []
  records := []

/-- The log of a directory attached to the logger of the generator. -/
def attachMain (dir : Text) : Move := .attach mainLogger (Path.ofText dir) Level.info

lemma linked_hasNoFiles : ∀ name, ∀ k ∈ linked.journal.outlets name, k.place? = none := by
  intro name k hk
  obtain rfl : k = .collection := List.mem_singleton.mp (Journal.mem_outlets_start hk)
  rfl

lemma linked_isTree : linked.disk.IsTree := Disk.isTree_of_nodes (by decide +kernel)

/-- The log of the directory is attached once, and once more from within it under
another path, which adds nothing. -/
theorem one_handler_per_file_linked :
    let s' := performAll linked [attachMain "real".toText, .chdir ["real".toText]]
    s'.disk.Straight s'.here (logPath (Path.ofText "../real".toText)).toText ∧
      (∃ h ∈ (s'.journal.logger mainLogger).handlers, h.sink.standsAt [fileName, "real".toText]) ∧
      (runOn (attach mainLogger (Path.ofText "../real".toText) Level.info) s').2.journal.loggers =
        s'.journal.loggers := by
  intro s'
  have hms : AllStraight linked [attachMain "real".toText, .chdir ["real".toText]] := by
    refine ⟨?_, ?_, trivial⟩
    · right
      decide +kernel
    · change _ = _
      decide +kernel
  have hdir : s'.disk.Straight s'.here (logPath (Path.ofText "../real".toText)).toText := by
    decide +kernel
  have hhas : ∃ h ∈ (s'.journal.logger mainLogger).handlers,
      h.sink.standsAt [fileName, "real".toText] := by
    decide +kernel
  exact ⟨hdir, hhas, (one_handler_per_file linked_isTree rfl linked_hasNoFiles hms mainLogger).2.2
    _ _ hdir hhas⟩

/-- How many handlers write to the log of the directory, once it has been attached
twice under a path. -/
def attachedTwice (dir : Text) : ℕ :=
  ((performAll linked [attachMain dir, attachMain dir]).journal.logger mainLogger).handlers.countP
    (·.sink.standsAt [fileName, "real".toText])

lemma attachedTwice_eq_two {dir : Text} (hdir : dir ∈ ["link".toText, "//real".toText]) :
    attachedTwice dir = 2 := by
  have hcanonical : ∀ dir ∈ ["link".toText, "//real".toText],
      ((attachMain dir).perform linked).disk.canonical ((attachMain dir).perform linked).here
        (logPath (Path.ofText dir)).toText = .ok ⟨1, ["real".toText, fileName]⟩ := by
    intro dir hdir
    rcases List.mem_pair.mp hdir with rfl | rfl <;> cbv
  -- neither of the paths that were opened is the one without links
  have hnew : ∀ dir ∈ ["link".toText, "//real".toText],
      ∀ p ∈ paths (((attachMain dir).perform linked).journal.logger mainLogger),
        Path.ofText p ≠ ⟨1, ["real".toText, fileName]⟩ := by
    decide +kernel
  show ((runOn (attach mainLogger (Path.ofText dir) Level.info)
    ((attachMain dir).perform linked)).2.journal.logger mainLogger).handlers.countP
      (·.sink.standsAt [fileName, "real".toText]) = 2
  rw [runOn_attach_of_canonical _ (hcanonical dir hdir) (hnew dir hdir)]
  revert dir hdir
  decide +kernel

/-- **A log is attached twice through a link**, and under a path that begins with
two slashes. -/
theorem attach_twice : attachedTwice "link".toText = 2 ∧ attachedTwice "//real".toText = 2 :=
  ⟨attachedTwice_eq_two (by simp), attachedTwice_eq_two (by simp)⟩

end Audit

end TestScaffold
