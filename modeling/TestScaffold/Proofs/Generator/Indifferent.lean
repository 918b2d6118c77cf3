import TestScaffold.Proofs.Generator.Effects
import TestScaffold.Proofs.Layout.Holding
import TestScaffold.Proofs.Session.Twins

/-!
The generator in sessions that differ in their logs only.

None of the paths that it looks at passes a log, as long as the source, the place of
the test and the settings do not. So each of its stages ends alike in twins: it comes
to the same, and what it leaves differs in logs only. `generate_indifferent` puts the
stages together, and `loadSettings_alike` is what comes before them.
-/

namespace TestScaffold.Generator

open TestScaffold.Action
open Audit (fileName)

variable {settings : Settings} {annotationName path file marker source dir name content : Text}

/-! ### Looking -/

lemma isFile_indifferent (h : fileName ∉ Disk.steps path) :
    Indifferent true (look fun d here => d.isFile here path) :=
  .look fun _ _ hs => hs.disk.isFile hs.tidy.plain hs.plain' h

lemma readFile_indifferent (h : fileName ∉ Disk.steps path) :
    Indifferent true (look fun d here => d.readFile here path) :=
  .look fun _ _ hs => hs.disk.readFile hs.tidy.plain hs.plain' h

lemma validate_indifferent (h : fileName ∉ Disk.steps path) :
    Indifferent true (validate annotationName path) := by
  rw [validate]
  refine .ite (.refuse _) (.ite (.refuse _) ?_)
  exact (isFile_indifferent h).bind fun _ _ => .ite (.pure _) (.refuse _)

lemma readSource_indifferent (h : fileName ∉ Disk.steps path) :
    Indifferent true (readSource path) :=
  (readFile_indifferent h).bind fun _ _ => (Indifferent.accessOr _ _).bind fun _ _ => .pure _

/-! ### The build file -/

/-- The directory of a module is a beginning of the path. -/
lemma notMem_moduleRoot {root : Text} (h : fileName ∉ Disk.steps path)
    (hroot : Layout.moduleRoot path = .ok root) : fileName ∉ Disk.steps root := by
  obtain ⟨-, ⟨rfl, -⟩ | ⟨more, hpath, -⟩⟩ := Layout.moduleRoot_cases hroot
  · exact h
  · intro hmem
    have hsteps : Disk.steps path = Disk.steps root ++ Disk.steps ("src".toText ++ more) := by
      rw [hpath]
      exact Disk.steps_append_slash root _
    exact h (hsteps ▸ List.mem_append_left _ hmem)

lemma fileName_notMem_names : fileName ∉ BuildFile.names := by
  decide

/-- Whether a directory can be listed is a matter of where its path leads. -/
lemma unlistable?_eq_of_twins (host : Host) {root : Text} {s s' : Session} (hs : s.Twins true s')
    (hroot : fileName ∉ Disk.steps root) :
    BuildFile.unlistable? host s'.disk s.here root =
      BuildFile.unlistable? host s.disk s.here root := by
  rw [BuildFile.unlistable?, BuildFile.unlistable?,
    hs.disk.resolve_eq hs.tidy.plain hs.plain' hroot]

/-- No log is a build file, so the same one is found. -/
lemma hasEntry_eq_of_twins {root : Text} {s s' : Session} (hs : s.Twins true s')
    (hroot : fileName ∉ Disk.steps root) (hname : name ∈ BuildFile.names) :
    BuildFile.hasEntry s'.disk s.here root name = BuildFile.hasEntry s.disk s.here root name := by
  rw [BuildFile.hasEntry, BuildFile.hasEntry,
    hs.disk.resolve_eq hs.tidy.plain hs.plain' hroot]
  split
  · next l n hres =>
      rw [hs.disk.same]
      intro hcalled
      obtain rfl : name = fileName := Option.some.inj hcalled
      exact fileName_notMem_names hname
  · rfl

/-- The stages of a draft, one after the other. No directory of a module is a log, and no
build file has the name of one. -/
lemma find_indifferent (h : fileName ∉ Disk.steps path) :
    Indifferent true (BuildFile.find path) := by
  rw [BuildFile.find]
  refine (Indifferent.ofExcept _).bind fun root hroot => ?_
  have hpath : fileName ∉ Disk.steps root := by
    obtain ⟨s, s', -, hrun⟩ := hroot
    refine notMem_moduleRoot h ?_
    rw [runOn_ofExcept] at hrun
    cases hmodule : Layout.moduleRoot path with
    | error e => simp [hmodule, Except.mapError] at hrun
    | ok root' => simpa [hmodule, Except.mapError] using (Prod.mk.inj hrun).1
  refine (Indifferent.look fun s s' hs => ?_).bind fun _ _ => .ite ?_ ?_
  · exact hs.disk.isDir hs.tidy.plain hs.plain' fun _ => hpath
  · refine Indifferent.host.bind fun host _ => ?_
    refine (Indifferent.look fun s s' hs => ?_).bind fun unlistable _ => ?_
    · exact unlistable?_eq_of_twins host hs hpath
    cases unlistable with
    | some e => exact .refuse _
    | none => ?_
    refine (Indifferent.look fun s s' hs => ?_).bind fun found _ => ?_
    · exact List.find?_congr fun name hname => hasEntry_eq_of_twins hs hpath hname
    cases found with
    | some name => exact (Indifferent.log _ _ _).bind fun _ _ => .pure _
    | none => exact (Indifferent.log _ _ _).bind fun _ _ => .refuse _
  · exact (Indifferent.log _ _ _).bind fun _ _ => .refuse _

/-- The path of a build file passes no log. -/
lemma notMem_of_find_yields (h : fileName ∉ Disk.steps path)
    (hfile : (BuildFile.find path).Yields file) : fileName ∉ Disk.steps file := by
  obtain ⟨s, s', hrun⟩ := hfile
  obtain ⟨root, name, hroot, -, -, hname, rfl⟩ := find_eq_ok hrun
  have hmem := List.mem_of_find?_eq_some hname
  have hproper := isName_of_mem_names hmem
  rw [Disk.steps_append_slash, Disk.steps_of_notMem hproper.ne_nil hproper.notMem]
  intro hin
  rcases List.mem_append.mp hin with hin | hin
  · exact notMem_moduleRoot h hroot hin
  · exact fileName_notMem_names (List.mem_singleton.mp hin ▸ hmem)

lemma hasTestDependencies_indifferent (h : fileName ∉ Disk.steps file) :
    Indifferent true (BuildFile.hasTestDependencies file marker) := by
  rw [BuildFile.hasTestDependencies]
  refine (isFile_indifferent h).bind fun _ _ => .ite ?_ (.pure _)
  exact (readFile_indifferent h).bind fun _ _ =>
    (Indifferent.accessOr _ _).bind fun _ _ => .pure _

/-! ### The draft -/

lemma extract_indifferent : Indifferent true (extract source annotationName) := by
  rw [extract, findFunctions]
  refine .bind ?_ fun sigs _ => ?_
  · refine (Indifferent.log _ _ _).bind fun _ _ => ?_
    exact (Indifferent.forM fun _ => .log _ _ _).bind fun _ _ => .pure _
  · cases sigs with
    | nil => exact .refuse _
    | cons f fs => exact .pure _

lemma draft_indifferent (settings : Settings) (annotationName : Text)
    (h : fileName ∉ Disk.steps path) :
    Indifferent true (draft settings annotationName path) := by
  rw [draft]
  refine (validate_indifferent h).bind fun _ _ => (find_indifferent h).bind fun file hfile => ?_
  have hfile := notMem_of_find_yields h hfile.yields
  refine (hasTestDependencies_indifferent hfile).bind fun marked _ => ?_
  cases marked with
  | false =>
      simp only [Bool.not_false, ↓reduceIte, refuse_bind]
      exact .refuse _
  | true => ?_
  refine (Indifferent.ofExcept _).bind fun package _ => (Indifferent.log _ _ _).bind fun _ _ => ?_
  refine (readSource_indifferent h).bind fun source _ => (Indifferent.print _).bind fun _ _ => ?_
  refine extract_indifferent.bind fun sigs _ => (Indifferent.print _).bind fun _ _ => ?_
  exact (Indifferent.ofExcept _).bind fun _ _ => .pure _

/-! ### Writing -/

/-- A disk stays plain where a file is opened, and where it is filled then. -/
lemma plain_of_openFile (refusal? : Location → List UInt8 → Option Disk.Refusal) {d d' : Disk}
    {here place : Location} {bs : List UInt8} (hp : d.Plain here)
    (hslash : Disk.endsInSlash path = false) (hbs : bs ≠ [])
    (hopen : d.openFile here path = .ok (d', place)) :
    d'.Plain here ∧ (d'.fill refusal? place bs).2.Plain here := by
  have hputs : ∀ {bs' d₂}, Disk.PutsFile place bs' d d₂ → d₂.Plain here := fun h =>
    ⟨h.linkFree hp.linkFree, h.isTree hp.isTree, h.grows.get?_dir hp.here⟩
  obtain ⟨-, ⟨hfaulty, rfl⟩ | ⟨hempty, -⟩⟩ := Disk.openFile_effect hp.linkFree hslash hopen
  · rw [Disk.fill, if_neg hbs, if_pos hfaulty]
    exact ⟨hp, hp⟩
  · obtain ⟨bs', hfilled, -⟩ := Disk.fill_effect hbs hempty (Prod.mk.eta.symm :
      d'.fill refusal? place bs = _)
    exact ⟨hputs hempty, hputs hfilled⟩

/-- A file that is opened is filled alike in twins, if its path passes no log. -/
lemma openFile_fill_indifferent (h : fileName ∉ Disk.steps path)
    (hslash : Disk.endsInSlash path = false) (hcontent : content ≠ []) :
    Indifferent true (do
      let place ← accessOr (.testUnwritable path)
        (← changeFor fun d here => d.openFile here path)
      fill path place content) := by
  intro s s' hs
  rcases hs.disk.openFile hs.tidy.plain hs.plain' h with
    ⟨e, hopen, hopen'⟩ | ⟨place, d, d', hopen, hopen', htwins, hsame⟩
  · rw [runOn_bind_of_ok (runOn_changeFor_of_error hopen),
      runOn_bind_of_ok (runOn_changeFor_of_error (hs.here ▸ hopen'))]
    cases e <;> exact ⟨rfl, hs⟩
  rw [runOn_bind_of_ok (runOn_changeFor_of_ok hopen), runOn_accessOr_ok_bind,
    runOn_bind_of_ok (runOn_changeFor_of_ok (hs.here ▸ hopen')), runOn_accessOr_ok_bind]
  have hplain := plain_of_openFile s.host.refusal? hs.tidy.plain hslash
    (encode_ne_nil hcontent) hopen
  have hplain' := plain_of_openFile s.host.refusal? hs.plain' hslash
    (encode_ne_nil hcontent) hopen'
  by_cases hchars : content.AllChars
  · obtain ⟨hanswer, hfilled⟩ := htwins.fill hsame s.host.refusal? (Utf8.encode content)
    rw [runOn_fill_of_allChars hchars, runOn_fill_of_allChars hchars]
    have hrefusal : s'.host.refusal? = s.host.refusal? := by rw [hs.host]
    dsimp only
    rw [hrefusal, hanswer]
    exact Indifferent.accessOr _ _ _ _ (hs.of_disk hfilled hplain.2 hplain'.2)
  · obtain ⟨what, hwhat⟩ := Option.ne_none_iff_exists'.mp
      (mt Encoding.refusal?_utf8_eq_none_iff.mp hchars)
    rw [runOn_fill_of_refused hwhat, runOn_fill_of_refused hwhat]
    exact ⟨rfl, hs.of_disk htwins hplain.1 hplain'.1⟩

/-- A file is written alike in twins, if its path passes no log. -/
lemma write_indifferent (hdir : dir ≠ []) (hname : Path.IsName name) (hcontent : content ≠ [])
    (h : fileName ∉ Disk.steps (Path.joinTo dir name)) :
    Indifferent true (write dir name content) := by
  have hbefore : fileName ∉ Disk.steps dir := by
    rw [Disk.steps_joinTo hdir hname.ne_nil hname.notMem] at h
    exact fun hmem => h (List.mem_append_left _ hmem)
  have hslash : Disk.endsInSlash (Path.joinTo dir name) = false :=
    Disk.endsInSlash_joinTo hname.ne_nil hname.notMem
  have hfill := openFile_fill_indifferent h hslash hcontent
  refine Indifferent.host.bind fun host _ => ?_
  have hmakes : ∀ (d : Disk) here, d.Adds (d.makeDirs here (host.testRoom + 1) dir).2 :=
    fun d here => Disk.makeDirs_adds _ d here dir
  refine (Indifferent.changeMost (fun s s' hs => ?_) hmakes).bind fun _ _ => ?_
  · exact hs.disk.makeDirs _ hs.tidy.plain hs.plain' fun _ => hbefore
  refine (Indifferent.accessOr _ _).bind fun _ _ => ?_
  -- the last two steps have to be taken at once: what is filled was opened on both disks
  have hlast : ∀ β (f : Action β), Indifferent true f → Indifferent true (do
      let place ← accessOr (.testUnwritable (Path.joinTo dir name))
        (← changeFor fun d here => d.openFile here (Path.joinTo dir name))
      fill (Path.joinTo dir name) place content
      f) := by
    intro β f hf
    have hseq := hfill.bind fun _ _ => hf
    simpa only [bind_assoc] using hseq
  refine hlast _ _ ((Indifferent.log _ _ _).bind fun _ _ => ?_)
  exact Indifferent.herePath.bind fun _ _ => .pure _

/-- **A run of the generator ends alike in twins**, if neither the source nor the
place of the test is below a log. -/
theorem generate_indifferent (settings : Settings) (dryRun : Bool) (annotationName : Text)
    (h : fileName ∉ Disk.steps path)
    (htest : ∀ dir name, Layout.testPlace path = .ok (dir, name) →
      fileName ∉ Disk.steps (Path.joinTo dir name)) :
    Indifferent true (generate settings dryRun annotationName path) := by
  rw [generate_eq]
  refine (draft_indifferent settings annotationName h).bind fun t ht => ?_
  obtain ⟨s, s', hdraft⟩ := ht.yields
  obtain ⟨hplace, hcontent, -⟩ := draft_eq_ok hdraft
  obtain ⟨hdir, hname, -⟩ := Layout.testPlace_eq_ok hplace
  have hproper : Path.IsName t.name := hname ▸ Layout.isName_testFileName path
  refine .ite ?_ ?_
  · exact (Indifferent.log _ _ _).bind fun _ _ => .pure _
  · exact (write_indifferent hdir hproper hcontent (htest _ _ hplace)).bind fun _ _ => .pure _

/-- The settings are loaded alike from twins, if their path passes no log. -/
lemma loadSettings_alike {s s' : Session} (given : Option Text) (hs : s.Twins true s')
    (h : fileName ∉ Disk.steps (settingsPath given s)) :
    Alike true (runOn (loadSettings given) s) (runOn (loadSettings given) s') := by
  have hpath : settingsPath given s' = settingsPath given s := by
    unfold settingsPath
    rw [hs.settingsVar]
  rw [loadSettings, runOn_get_bind, runOn_get_bind, hpath]
  generalize settingsPath given s = path at h
  have hload : Indifferent true (if path = [] then return Settings.default else do
      let octets ← accessOr (.settingsUnreadable path) (← look fun d here => d.readFile here path)
      ofExcept (Settings.ofOctets s.host.yaml path octets)) := by
    refine .ite (.pure _) ((readFile_indifferent h).bind fun _ _ => ?_)
    exact (Indifferent.accessOr _ _).bind fun _ _ => .ofExcept _
  rw [hs.host]
  exact hload s s' hs

end TestScaffold.Generator
