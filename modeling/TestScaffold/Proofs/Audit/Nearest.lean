import TestScaffold.Proofs.Audit.Finding
import TestScaffold.Proofs.Disk.Following
import TestScaffold.Proofs.Disk.Spelling

/-!
The nearest marker above a directory, on disks with links.

* `markerAt` and `logsAt` are the marker that a directory would have, some levels above where
  the search begins, and the directory of the log in it.
* `runOn_findLogDir_of_marker`: the search comes to the nearest marker that is a directory.
  `EndsAt` says what comes of the directory of the log in it (`endsAt_of_marker`).
* `findLogDir_nearest`: **what the search for the directory of a log comes to**, whatever is on
  the disk. It fails where a path that it looks along is too long
  (`findLogDir_escapes_longName`).
-/

namespace TestScaffold

namespace Path

/-- The directory that a path is in; the root is in itself. -/
def up (p : Path) : Path := { p with parts := p.parts.dropLast }

/-- Going up a number of times drops as many parts from the end. -/
lemma iterate_up (p : Path) (k : ℕ) :
    up^[k] p = ⟨p.slashes, (p.parts.reverse.drop k).reverse⟩ := by
  induction k with
  | zero => simp
  | succ k ih =>
      rw [Function.iterate_succ_apply', ih, up]
      simp [List.dropLast_reverse]

lemma mem_toText {p : Path} {b : Text} {c : CodePoint} (hb : b ∈ p.parts) (hc : c ∈ b) :
    c ∈ p.toText := by
  rw [toText, if_neg fun hnone => by simp [hnone.2] at hb]
  exact List.mem_append_right _ (Text.mem_join hb hc)

/-- A path from the root, taken apart. -/
structure Rooted (p : Path) : Prop where
  slashes : p.slashes ≠ 0
  isPart : ∀ b ∈ p.parts, b ≠ [] ∧ char '/' ∉ b
  isPath : ∀ b ∈ p.parts, b.isPath

namespace Rooted

variable {p : Path} {c : Text}

lemma iterate_up (h : Rooted p) (k : ℕ) : Rooted (up^[k] p) := by
  have hparts : ∀ b ∈ (up^[k] p).parts, b ∈ p.parts := by
    intro b hb
    rw [Path.iterate_up] at hb
    exact List.mem_reverse.mp (List.mem_of_mem_drop (List.mem_reverse.mp hb))
  refine ⟨?_, fun b hb => h.isPart b (hparts b hb), fun b hb => h.isPath b (hparts b hb)⟩
  rw [Path.iterate_up]
  exact h.slashes

/-- A name that can be a path leads from a rooted path to another one. -/
lemma child (h : Rooted p) (hc : IsName c) (hpath : c.isPath) : Rooted (p.child c) := by
  have hparts : ∀ b ∈ (p.child c).parts, b ∈ p.parts ∨ b = c := fun b hb => by
    simpa [Path.child] using hb
  refine ⟨h.slashes, fun b hb => ?_, fun b hb => ?_⟩
  · rcases hparts b hb with hb | rfl
    · exact h.isPart b hb
    · exact ⟨hc.ne_nil, hc.notMem⟩
  · rcases hparts b hb with hb | rfl
    · exact h.isPath b hb
    · exact hpath

lemma isPath_toText (h : Rooted p) : p.toText.isPath :=
  Path.isPath_toText h.isPath

lemma head? (h : Rooted p) : p.toText.head? = some (char '/') :=
  (Disk.head?_toText_iff h.isPart).mpr h.slashes

/-- A rooted path is followed by its parts. -/
lemma steps (h : Rooted p) : Disk.steps p.toText = p.parts :=
  Disk.steps_toText (fun hnone => h.slashes hnone.1) h.isPart

/-- An entry is found from its directory. -/
lemma goesOn (h : Rooted p) (hc : IsName c) (hpath : c.isPath)
    (hshort : (Utf8.encode c).length ≤ Disk.nameMax) (here : Location) :
    Disk.GoesOn here p.toText (p.child c).toText c where
  ne_nil := fun hnil => by simpa [hnil] using (h.child hc hpath).head?
  steps := by rw [h.steps, (h.child hc hpath).steps, Path.child]
  origin := by rw [Disk.origin, Disk.origin, h.head?, (h.child hc hpath).head?]
  isName := hc
  short := hshort

end Rooted

end Path

/-- What a path is resolved to is rooted: there are no dots in it. -/
lemma Disk.rooted_of_canonical {d : Disk} {here : Location} {path : Text} {p : Path}
    (h : d.canonical here path = .ok p) : p.Rooted where
  slashes := slashes_of_canonical h
  isPart := parts_of_canonical h
  isPath := fun _ hb => Text.isPath_of_subset (of_canonical h).1 fun _ hc => Path.mem_toText hb hc

namespace Audit

open TestScaffold.Action

variable {s : Session} {start : Text} {p : Path} {k : ℕ}

/-! ### Markers -/

/-- The marker that the directory some levels above would have. -/
def markerAt (p : Path) (k : ℕ) : Path := (Path.up^[k] p).child markerName

/-- The directory of the log in that marker. -/
def logsAt (p : Path) (k : ℕ) : Path := (markerAt p k).child logsName

/-- The nearest directories, that many of them, have no marker, and the system does not refuse
to look for one. -/
def Bare (s : Session) (p : Path) (k : ℕ) : Prop :=
  ∀ i < k, ¬s.disk.isDir s.here (markerAt p i).toText ∧
    ¬s.disk.TooLong s.here (markerAt p i).toText

lemma markerAt_eq (p : Path) (k : ℕ) :
    markerAt p k = ⟨p.slashes, (markerName :: p.parts.reverse.drop k).reverse⟩ := by
  simp [markerAt, Path.child, Path.iterate_up]

lemma logsAt_eq (p : Path) (k : ℕ) :
    logsAt p k = ⟨p.slashes, (logsName :: markerName :: p.parts.reverse.drop k).reverse⟩ := by
  simp [logsAt, markerAt_eq, Path.child]

lemma isName_markerName : Path.IsName markerName := by decide

lemma isName_logsName : Path.IsName logsName := by decide

lemma rooted_markerAt (hp : p.Rooted) (k : ℕ) : (markerAt p k).Rooted :=
  (hp.iterate_up k).child isName_markerName (by decide)

lemma rooted_logsAt (hp : p.Rooted) (k : ℕ) : (logsAt p k).Rooted :=
  (rooted_markerAt hp k).child isName_logsName (by decide)

/-! ### The search -/

/-- The search ends at the marker that many levels above, with the directory of the log in it,
unless the path of that is too long or something else is in its place. -/
structure EndsAt (s : Session) (start : Text) (p : Path) (k : ℕ) : Prop where
  tooLong : s.disk.TooLong s.here (logsAt p k).toText → runOn (findLogDir start) s =
    (.error (.ofAccess (.at (logsAt p k).toText .nameTooLong)), s)
  barred : ¬s.disk.TooLong s.here (logsAt p k).toText → s.disk.Bars s.here (logsAt p k).toText →
    runOn (findLogDir start) s = (.error (.ofAccess (.at (logsAt p k).toText .exists)), s)
  made : ¬s.disk.TooLong s.here (logsAt p k).toText → ¬s.disk.Bars s.here (logsAt p k).toText →
    ∃ d, runOn (findLogDir start) s = (.ok (some (logsAt p k)), { s with disk := d }) ∧
      d.isDir s.here (logsAt p k).toText ∧ s.disk.MakesAt d s.here (logsAt p k).toText

/-- Where there is no marker, the search goes on upwards. -/
lemma Bare.quiet (h : Bare s p k) : Quiet s p.slashes p.parts.reverse k := by
  intro i hi
  obtain ⟨hdir, hshort⟩ := h i hi
  rw [← markerAt_eq, Disk.isDirStrict_of_not_tooLong hshort, Bool.eq_false_iff.mpr hdir]

variable (hvar : ∀ t, s.logDirVar = some t → t = [])
  (hp : s.disk.canonical s.here (startPath s start) = .ok p)

include hvar hp

/-- Without a marker nothing is found, and nothing is made. -/
lemma runOn_findLogDir_of_bare (hbare : Bare s p searchDepth) :
    runOn (findLogDir start) s = (.ok none, s) := by
  rw [runOn_findLogDir_of_canonical hvar hp, runOn_searchUp_none hbare.quiet]

/-- The search comes to the first level that gets an answer. -/
lemma exists_runOn_findLogDir (hk : k < searchDepth) (hbare : Bare s p k)
    (hanswer : s.disk.isDirStrict s.here (markerAt p k).toText ≠ .ok false) :
    ∃ depth, runOn (findLogDir start) s =
      runOn (searchUp (depth + 1) p.slashes (p.parts.reverse.drop k)) s := by
  rw [markerAt_eq] at hanswer
  rw [runOn_findLogDir_of_canonical hvar hp]
  exact exists_runOn_searchUp hk hbare.quiet hanswer

/-- A marker that cannot be looked for ends the search. -/
lemma runOn_findLogDir_of_tooLong (hk : k < searchDepth) (hbare : Bare s p k)
    (hlong : s.disk.TooLong s.here (markerAt p k).toText) :
    runOn (findLogDir start) s =
      (.error (.ofAccess (.at (markerAt p k).toText .nameTooLong)), s) := by
  have hpath := (rooted_markerAt (Disk.rooted_of_canonical hp) k).isPath_toText
  have hstrict := Disk.isDirStrict_of_tooLong hpath hlong
  obtain ⟨depth, hrun⟩ := exists_runOn_findLogDir hvar hp hk hbare (by simp [hstrict])
  rw [hrun, runOn_searchUp_succ, ← markerAt_eq, hstrict]

/-- **The search comes to the nearest marker.** -/
lemma runOn_findLogDir_of_marker (hk : k < searchDepth) (hbare : Bare s p k)
    (hmarker : s.disk.isDir s.here (markerAt p k).toText) :
    runOn (findLogDir start) s =
      match s.disk.ensureDirStrict s.here (logsAt p k).toText with
      | .error e => (.error (.ofAccess e), s)
      | .ok d => (.ok (some (logsAt p k)), { s with disk := d }) := by
  have hstrict := Disk.isDirStrict_of_isDir hmarker
  obtain ⟨depth, hrun⟩ := exists_runOn_findLogDir hvar hp hk hbare (by simp [hstrict])
  have hlevel := runOn_searchUp_succ depth p.slashes (p.parts.reverse.drop k) s
  rw [← markerAt_eq, ← logsAt_eq, hstrict] at hlevel
  exact hrun.trans hlevel

/-- **What comes of the nearest marker**: the directory of the log in it. -/
lemma endsAt_of_marker (hk : k < searchDepth) (hbare : Bare s p k)
    (hmarker : s.disk.isDir s.here (markerAt p k).toText) : EndsAt s start p k := by
  have hrooted := Disk.rooted_of_canonical hp
  have hnext := (rooted_markerAt hrooted k).goesOn isName_logsName (by decide) (by decide) s.here
  obtain ⟨l, hres⟩ := (Disk.isDir_iff.mp hmarker).2
  obtain ⟨hlong, hbars, hmade⟩ :=
    Disk.ensureDirStrict_child hnext (rooted_logsAt hrooted k).isPath_toText hres
  have hrun := runOn_findLogDir_of_marker hvar hp hk hbare hmarker
  refine ⟨fun h => ?_, fun h hb => ?_, fun h hb => ?_⟩
  · rw [hrun, logsAt, hlong h]
  · rw [hrun, logsAt, hbars h hb]
  · obtain ⟨d, hd, hdir, hmakes⟩ := hmade h hb
    exact ⟨d, by rw [hrun, logsAt, hd], hdir, hmakes⟩

omit hvar hp

/-- **What the search for the directory of a log comes to.** The nearest marker decides, or else
nothing is found and nothing is made; only a path that is too long comes in between. A directory
that the environment names is there afterwards, and nothing is searched. -/
theorem findLogDir_nearest (hd : s.disk.LinksClean) (hhere : s.herePath.isPath)
    (hstart : start.isPath) :
    ((∀ t, s.logDirVar = some t → t = []) →
      (∃ q, s.disk.canonical s.here (startPath s start) = .error (.loop q)) ∨
      ∃ p, s.disk.canonical s.here (startPath s start) = .ok p ∧
        (∀ k < searchDepth, Bare s p k → s.disk.isDir s.here (markerAt p k).toText →
          EndsAt s start p k) ∧
        (∀ k < searchDepth, Bare s p k → s.disk.TooLong s.here (markerAt p k).toText →
          runOn (findLogDir start) s =
            (.error (.ofAccess (.at (markerAt p k).toText .nameTooLong)), s)) ∧
        (Bare s p searchDepth → runOn (findLogDir start) s = (.ok none, s))) ∧
    ∀ t, s.logDirVar = some t → t ≠ [] →
      (∀ start', runOn (findLogDir start') s = runOn (findLogDir start) s) ∧
      ∀ x s', runOn (findLogDir start) s = (.ok x, s') →
        x = some (Path.ofText t) ∧ ∃ d, s' = { s with disk := d } ∧
          d.isDir s.here (Path.ofText t).toText := by
  refine ⟨fun hvar => ?_, fun t ht hne => ⟨fun start' => ?_, fun x s' h => ?_⟩⟩
  · have hclean : (startPath s start).isPath := by
      refine Path.isPath_toText (Path.isPath_parts ?_)
      split
      · exact hhere
      · exact hstart
    rcases Disk.exists_canonical_or_loop hd hhere hclean with ⟨p, hp⟩ | ⟨q, hq, -⟩
    · exact .inr ⟨p, hp, fun k hk hbare => endsAt_of_marker hvar hp hk hbare,
        fun k hk hbare => runOn_findLogDir_of_tooLong hvar hp hk hbare,
        runOn_findLogDir_of_bare hvar hp⟩
    · exact .inl ⟨q, hq⟩
  · rw [runOn_findLogDir_of_var start' ht hne, runOn_findLogDir_of_var start ht hne]
  · rw [runOn_findLogDir_of_var start ht hne] at h
    rcases hmade : s.disk.makePath s.here (s.host.logRoom + 1) (Path.ofText t) with ⟨e | u, d⟩
    · rw [hmade] at h
      cases h
    · rw [hmade] at h
      obtain ⟨hx, rfl⟩ := Prod.mk.inj h
      exact ⟨(Except.ok.inj hx).symm, d, rfl, Disk.isDir_of_makePath hmade⟩

/-- A session in a directory whose marker is a link, with a directory below that has a file for
a marker. -/
def linkedMarker : Session where
  host := .lenient 984 981 .late
  disk := ⟨[(["w".toText], .dir), ([markerName, "w".toText], .link "../m".toText),
    (["m".toText], .dir), (["a".toText, "w".toText], .dir),
    ([markerName, "a".toText, "w".toText], .file [])]⟩
  here := ["w".toText]
  settingsVar := none
  logDirVar := none
  arguments := []
  stamp := []
  elapsed := []
  journal := .start ⟨Level.warning, []⟩ [mainLogger]
  stdout := []
  stderr := []
  records := []

lemma canonical_linkedMarker :
    linkedMarker.disk.canonical linkedMarker.here (startPath linkedMarker "a/b".toText) =
      .ok (Path.ofText "/w/a/b".toText) := by
  have htree : linkedMarker.disk.IsTree := Disk.isTree_of_nodes (by decide +kernel)
  have hhere : linkedMarker.disk.get? linkedMarker.here = some .dir := by decide +kernel
  have hstraight :
      linkedMarker.disk.Straight linkedMarker.here (startPath linkedMarker "a/b".toText) := by
    decide +kernel
  rw [Disk.canonical_of_straight_of_isPath htree hhere hstraight (by decide +kernel)
    (by decide +kernel)]
  decide +kernel

/-- The directory of the log is made where the link leads. -/
theorem findLogDir_nearest_linkedMarker :
    linkedMarker.disk.LinksClean ∧ linkedMarker.herePath.isPath ∧
      Text.isPath "a/b".toText ∧
      ∃ d, runOn (findLogDir "a/b".toText) linkedMarker =
          (.ok (some (Path.ofText "/w/.utgen/logs".toText)), { linkedMarker with disk := d }) ∧
        d.isDir linkedMarker.here "/w/.utgen/logs".toText := by
  have hd : linkedMarker.disk.LinksClean :=
    Disk.linksClean_of_nodes (by simp [linkedMarker, CodePoint.fitsPath])
  have hhere : linkedMarker.herePath.isPath := by decide +kernel
  have hstart : Text.isPath "a/b".toText := by decide
  refine ⟨hd, hhere, hstart, ?_⟩
  obtain ⟨hsearch, -⟩ := findLogDir_nearest hd hhere hstart
  rcases hsearch (by simp [linkedMarker]) with ⟨q, hq⟩ | ⟨p, hp, hmarker, -⟩
  · rw [canonical_linkedMarker] at hq
    cases hq
  obtain rfl := Except.ok.inj (canonical_linkedMarker.symm.trans hp)
  have hbare : Bare linkedMarker (Path.ofText "/w/a/b".toText) 2 := by
    unfold Bare Disk.TooLong
    decide +kernel
  have hlogs : logsAt (Path.ofText "/w/a/b".toText) 2 = Path.ofText "/w/.utgen/logs".toText := by
    decide +kernel
  have htext : (Path.ofText "/w/.utgen/logs".toText).toText = "/w/.utgen/logs".toText := by
    decide +kernel
  have hfree : linkedMarker.disk.resolve linkedMarker.here "/w/.utgen/logs".toText .entry =
      .ok (.vacant ["m".toText] logsName) := by
    decide +kernel
  have hmade := (hmarker 2 (by decide) hbare (by decide +kernel)).made
  rw [hlogs, htext] at hmade
  have hshort : ¬linkedMarker.disk.TooLong linkedMarker.here "/w/.utgen/logs".toText := by
    unfold Disk.TooLong
    decide +kernel
  obtain ⟨d, hrun, hdir, -⟩ := hmade hshort (Disk.not_bars_of_vacant hfree)
  exact ⟨d, hrun, hdir⟩

/-- A session in a directory with a marker. -/
def plainMarker : Session :=
  { linkedMarker with disk := ⟨[(["w".toText], .dir), ([markerName, "w".toText], .dir)]⟩ }

/-- A name that is too long for the system. -/
def longName : Text := List.replicate 256 (char 'a')

/-- **A start that is too long is not guarded against**: the search fails, although the directory
above has a marker. -/
theorem findLogDir_escapes_longName :
    plainMarker.disk.canonical plainMarker.here (startPath plainMarker longName) =
        .ok ⟨1, ["w".toText, longName]⟩ ∧
      plainMarker.disk.isDir plainMarker.here (markerAt ⟨1, ["w".toText, longName]⟩ 1).toText ∧
      runOn (findLogDir longName) plainMarker =
        (.error (.system ⟨.nameTooLong, some (markerAt ⟨1, ["w".toText, longName]⟩ 0).toText⟩),
          plainMarker) := by
  have htree : plainMarker.disk.IsTree := Disk.isTree_of_nodes (by decide +kernel)
  have hstraight : plainMarker.disk.Straight plainMarker.here (startPath plainMarker longName) := by
    decide +kernel
  have hhere : plainMarker.disk.get? plainMarker.here = some .dir := by decide +kernel
  have hcanonical : plainMarker.disk.canonical plainMarker.here (startPath plainMarker longName) =
      .ok ⟨1, ["w".toText, longName]⟩ := by
    rw [Disk.canonical_of_straight_of_isPath htree hhere hstraight (by decide +kernel)
      (by decide +kernel)]
    decide +kernel
  have hlong : plainMarker.disk.TooLong plainMarker.here
      (markerAt ⟨1, ["w".toText, longName]⟩ 0).toText := by
    unfold Disk.TooLong
    decide +kernel
  exact ⟨hcanonical, by decide +kernel, runOn_findLogDir_of_tooLong
    (by simp [plainMarker, linkedMarker]) hcanonical (by decide) (by simp [Bare]) hlong⟩

end Audit

end TestScaffold
