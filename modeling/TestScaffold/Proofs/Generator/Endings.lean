import TestScaffold.Proofs.Generator.DryRun
import TestScaffold.Proofs.Session.Narrating

/-!
How a run of the generator ends, and what it has told until then.

* `draft_narrates` goes through the stages: a draft prints the two lines of
  progress, and what it fails with is an error of the generator, after the lines
  that come before its stage. A source file that was found is called by what can be a
  path, and has a name (`isPath_of_isFile`, `name_ne_nil_of_isFile`), so no stage
  fails in any other way.
* `generate_told` and `generate_prints` say the same of a whole run, also of one
  that writes. `Session.HasTestAt` is where such a run may change a file.
* `generate_ends`: **a run ends with a test or with an error of the generator**,
  on every disk. There are two other ways: too many directories are missing, or
  the test has no encoding.
-/

namespace TestScaffold

namespace Disk

variable {d : Disk} {here : Location} {path : Text}

/-! ### Source files -/

lemma isPath_of_isFile (h : d.isFile here path) : path.isPath := by
  rw [isFile, Bool.and_eq_true] at h
  exact h.1

/-- Single dots lead to a directory, or nowhere. -/
lemma stride_dots (slash : Bool) {l : Location} {todo : List Text}
    (hdots : ∀ c ∈ todo, c = [char '.']) (hl : todo = [] → d.get? l = some .dir) :
    d.stride .content slash l todo = .arrived (.found l .dir) ∨
      ∃ e, d.stride .content slash l todo = .blocked e := by
  induction todo with
  | nil => simp [stride, hl rfl]
  | cons c rest ih =>
      obtain rfl := hdots c (by simp)
      rw [stride]
      split
      · exact .inr ⟨_, rfl⟩
      · next hdir =>
          rw [if_pos rfl]
          exact ih (fun b hb => hdots b (by simp [hb])) fun _ => not_not.mp hdir

/-- A path without a name leads to a directory, on a disk of any kind. -/
lemma name_ne_nil_of_isFile (h : d.isFile here path) : (Path.ofText path).name ≠ [] := by
  intro hname
  have hparts : Path.partsOf path = [] := by
    by_contra hne
    have hlast := List.getLast_mem hne
    rw [Path.name, Path.ofText, List.getLast?_eq_some_getLast hne, Option.getD_some] at hname
    rw [hname] at hlast
    simp [Path.partsOf] at hlast
  have hdots : ∀ c ∈ steps path, c = [char '.'] := by
    rw [Path.partsOf_eq_filter, List.filter_eq_nil_iff] at hparts
    exact fun c hc => by simpa using hparts c hc
  have hempty : path ≠ [] → steps path = [] → d.get? (origin here path) = some .dir := by
    intro hne hnil
    rw [origin, if_pos (head?_of_steps_eq_nil hne hnil)]
    rfl
  simp only [isFile, stat, resolve, Bool.and_eq_true] at h
  obtain ⟨-, h⟩ := h
  by_cases hne : path = []
  · simp [hne] at h
  by_cases hlong : (Utf8.encode path).length ≥ pathMax
  · simp [hne, hlong] at h
  rw [if_neg hne, if_neg hlong, walk] at h
  rcases stride_dots (endsInSlash path) hdots (hempty hne) with hs | ⟨e, hs⟩
  · simp [hs] at h
  · simp [hs] at h

/-- What can be a path is refused by the system only. -/
lemma exists_system_of_readFile (hpath : path.isPath) {e : AccessError}
    (h : d.readFile here path = .error e) : ∃ e', e = .system e' :=
  (of_readFile_error h).elim (fun hno => absurd hpath hno.1) And.right

/-! ### Files that are opened -/

variable {d' : Disk} {l l' k : Location} {n : Node}

/-- On a tree no walk for a file ends at a link. -/
lemma stride_file_ne_link (ht : d.IsTree) {slash : Bool} {todo : List Text} {t : Text}
    (hl : todo = [] → d.get? l ≠ some (.link t))
    (h : d.stride .file slash l todo = .arrived (.found l' n)) : n ≠ .link t := by
  fun_induction stride d .file slash l todo with
  | case1 l n₀ hn₀ =>
      obtain ⟨rfl, rfl⟩ : l = l' ∧ n₀ = n := by simpa using h
      rintro rfl
      exact hl rfl hn₀
  | case4 l rest hdir ih => exact ih (fun _ => by simp [not_not.mp hdir]) h
  | case5 l rest hdir hdot ih => exact ih (fun _ => by simp [ht.tail (not_not.mp hdir)]) h
  | case10 l c rest hdir hdot hdots hfile hlong t ht hend => simp at hend
  | case12 l c rest hdir hdot hdots hfile hlong n₀ hlink hn₀ ih =>
      exact ih (fun _ heq => hlink t (Option.some.inj (hn₀.symm.trans heq))) h
  | _ => simp at h

lemma walk_file_ne_link (ht : d.IsTree) {budget : ℕ} {slash : Bool} {todo : List Text} {t : Text}
    (hl : todo = [] → d.get? l ≠ some (.link t))
    (h : d.walk .file budget slash l todo = .ok (.found l' n)) : n ≠ .link t := by
  fun_induction walk d .file budget slash l todo with
  | case2 budget slash l todo l₀ n₀ hstride =>
      obtain ⟨rfl, rfl⟩ : l₀ = l' ∧ n₀ = n := by simpa using h
      exact stride_file_ne_link ht hl hstride
  | case6 slash l todo l₁ target rest hstride budget ih =>
      -- a link stands in a directory, and its target begins there or at the root
      have hdir : d.get? (origin l₁ target) = some .dir := by
        rw [origin]
        split
        · rfl
        · exact (of_stride_link hstride).1
      exact ih (fun _ => by simp [hdir]) h
  | _ => simp_all

lemma resolve_file_ne_link (ht : d.IsTree) (h : d.resolve here path .file = .ok (.found l n))
    (t : Text) : n ≠ .link t := by
  rw [resolve] at h
  split at h
  · cases h
  split at h
  · cases h
  · next hne _ =>
      refine walk_file_ne_link ht (fun hnil => ?_) h
      rw [origin, if_pos (head?_of_steps_eq_nil hne hnil)]
      simp [get?]

/-- Opening a file changes nothing but the file. If it is there, its path leads to it. -/
lemma openFile_frame (h : d.openFile here path = .ok (d', l)) :
    (∀ k, k ≠ l → d'.get? k = d.get? k) ∧
      ∀ n, d.get? l = some n → d.resolve here path .file = .ok (.found l n) := by
  rw [openFile, target] at h
  split at h
  · cases h
  cases hres : d.resolve here path .file with
  | error e => simp [hres] at h
  | ok spot =>
      cases spot with
      | vacant m c =>
          obtain ⟨rfl, rfl⟩ : d.put (c :: m) (.file []) = d' ∧ c :: m = l := by
            simpa [hres] using h
          refine ⟨fun k hk => get?_put_of_ne d hk _, fun n hn => ?_⟩
          rw [(free_of_resolve hres).1] at hn
          cases hn
      | found m n =>
          have hget := get?_of_resolve_found hres
          have hsame : m = l → ∀ n', d.get? l = some n' →
              (.ok (.found m n) : Except Errno Spot) = .ok (.found l n') := by
            rintro rfl n' hn'
            rw [Option.some.inj (hget.symm.trans hn')]
          cases n with
          | dir => simp [hres] at h
          | faulty =>
              obtain ⟨rfl, hm⟩ : d = d' ∧ m = l := by simpa [hres] using h
              exact ⟨fun _ _ => rfl, hsame hm⟩
          | file bs =>
              obtain ⟨rfl, hm⟩ : d.put m (.file []) = d' ∧ m = l := by simpa [hres] using h
              exact ⟨fun k hk => get?_put_of_ne d (hm ▸ hk) _, hsame hm⟩
          | link t =>
              obtain ⟨rfl, hm⟩ : d.put m (.file []) = d' ∧ m = l := by simpa [hres] using h
              exact ⟨fun k hk => get?_put_of_ne d (hm ▸ hk) _, hsame hm⟩

/-- On a tree it is a step of growth, and the file is empty then, or has no content. -/
lemma openFile_grows (ht : d.IsTree) (h : d.openFile here path = .ok (d', l)) :
    d.Grows d' ∧ l ≠ [] ∧ (d'.get? l = some .faulty ∨ d'.get? l = some (.file [])) := by
  rw [openFile, target] at h
  split at h
  · cases h
  cases hres : d.resolve here path .file with
  | error e => simp [hres] at h
  | ok spot =>
      cases spot with
      | vacant m c =>
          obtain ⟨rfl, rfl⟩ : d.put (c :: m) (.file []) = d' ∧ c :: m = l := by
            simpa [hres] using h
          have hfree := (free_of_resolve hres).1
          exact ⟨.put (by simp) (by simp [hfree]), by simp, .inr (get?_put_self d (by simp) _)⟩
      | found m n =>
          have hget := get?_of_resolve_found hres
          have hroot : n ≠ .dir → m ≠ [] := by
            rintro hn rfl
            exact hn (by simpa [get?] using hget.symm)
          cases n with
          | dir => simp [hres] at h
          | link t => exact absurd rfl (resolve_file_ne_link ht hres t)
          | faulty =>
              obtain ⟨rfl, rfl⟩ : d = d' ∧ m = l := by simpa [hres] using h
              exact ⟨.refl d, hroot (by simp), .inl hget⟩
          | file bs =>
              obtain ⟨rfl, rfl⟩ : d.put m (.file []) = d' ∧ m = l := by simpa [hres] using h
              have hne := hroot (by simp)
              exact ⟨.put hne (by simp [hget, Node.shape]), hne, .inr (get?_put_self d hne _)⟩

variable {refusal? : Location → List UInt8 → Option Refusal} {bs : List UInt8}

lemma get?_fill_of_ne (hk : k ≠ l) : (d.fill refusal? l bs).2.get? k = d.get? k := by
  rw [fill]
  split
  · rfl
  split
  · rfl
  split
  · exact get?_put_of_ne d hk _
  · exact get?_put_of_ne d hk _

lemma fill_grows (hne : l ≠ []) (h : d.get? l = some .faulty ∨ d.get? l = some (.file [])) :
    d.Grows (d.fill refusal? l bs).2 := by
  have hput : d.get? l ≠ some .faulty → ∀ bs', d.Grows (d.put l (.file bs')) := fun hno bs' =>
    .put hne (by simp [h.resolve_left hno, Node.shape])
  rw [fill]
  split
  · exact .refl d
  split
  · exact .refl d
  · next hno => split <;> exact hput hno _

end Disk

/-- The test of a source file is there, and is opened at the location. -/
def Session.HasTestAt (s : Session) (path : Text) (l : Location) : Prop :=
  ∃ dir name n, Layout.testPlace path = .ok (dir, name) ∧
    s.disk.resolve s.here (Path.joinTo dir name) .file = .ok (.found l n)

namespace Generator

open TestScaffold.Action

/-! ### Stages -/

/-- The lines of progress before the stage that refuses. -/
def progress (e : ScaffoldError) : Text :=
  match e.kind with
  | .extraction => findingLine
  | .write => findingLine ++ generatingLine
  | _ => []

/-- The failure is an error of the generator, and the text is what was printed
before it. -/
def Refuses (e : Failure) (t : Text) : Prop := ∃ e', e = .scaffold e' ∧ t = progress e'

variable {settings : Settings} {annotationName path file marker source : Text}

lemma mem_loggers : Audit.mainLogger ∈ loggers ∧ signatureLogger ∈ loggers ∧
    stubLogger ∈ loggers ∧ BuildFile.logger ∈ loggers := by
  simp [loggers]

lemma validate_narrates : Narrates [] Refuses (validate annotationName path) := by
  rw [validate]
  split
  · exact .refuse ⟨_, rfl, rfl⟩
  split
  · exact .refuse ⟨_, rfl, rfl⟩
  refine (Narrates.look _).seq fun found _ => ?_
  cases found with
  | true => exact .pure ()
  | false => exact .refuse ⟨_, rfl, rfl⟩

/-- A path that is accepted leads to a file. -/
lemma isFile_of_validate (h : (validate annotationName path).Yields ()) :
    ∃ (d : Disk) (here : Location), d.isFile here path := by
  obtain ⟨s, s', h⟩ := h
  rw [validate] at h
  split at h
  · simp at h
  split at h
  · simp at h
  rw [runOn_look_bind] at h
  split at h
  · next hfile => exact ⟨s.disk, s.here, hfile⟩
  · simp at h

lemma find_narrates : Narrates [] Refuses (BuildFile.find path) := by
  rw [BuildFile.find]
  refine (Narrates.ofExcept fun e he => ?_).seq fun root _ => (Narrates.look _).seq fun dir _ => ?_
  · unfold Layout.moduleRoot at he
    dsimp only at he
    split at he
    · cases he
      exact ⟨_, rfl, rfl⟩
    · cases he
  cases dir with
  | false =>
      exact (Narrates.log _ mem_loggers.2.2.2 (by decide) (by decide)).seq
        fun _ _ => .refuse ⟨_, rfl, rfl⟩
  | true =>
      refine Narrates.host.seq fun host _ => (Narrates.look _).seq fun unlistable _ => ?_
      cases unlistable with
      | some e => exact .refuse ⟨_, rfl, rfl⟩
      | none => ?_
      refine (Narrates.look _).seq fun found _ => ?_
      cases found with
      | some name =>
          exact (Narrates.log _ mem_loggers.2.2.2 (by decide) (by decide)).seq fun _ _ => .pure _
      | none =>
          exact (Narrates.log _ mem_loggers.2.2.2 (by decide) (by decide)).seq
            fun _ _ => .refuse ⟨_, rfl, rfl⟩

/-- A build file is called by what can be a path, where its source is. -/
lemma isPath_of_find (hpath : path.isPath) (h : (BuildFile.find path).Yields file) :
    file.isPath := by
  obtain ⟨s, s', hrun⟩ := h
  obtain ⟨root, name, hroot, -, -, hname, rfl⟩ := find_eq_ok hrun
  have hup : root.isPath := by
    unfold Layout.moduleRoot at hroot
    dsimp only at hroot
    split at hroot
    · cases hroot
    · cases hroot
      exact Text.isPath_of_subset hpath fun _ => Text.mem_of_mem_before
  have hall : ∀ c ∈ BuildFile.names, c.isPath := by decide
  have hlast := hall name (List.mem_of_find?_eq_some hname)
  have hslash : (char '/').fitsPath := by decide
  simp [hup, hlast, hslash]

lemma hasTestDependencies_narrates (hfile : file.isPath) :
    Narrates [] Refuses (BuildFile.hasTestDependencies file marker) := by
  rw [BuildFile.hasTestDependencies]
  refine (Narrates.look _).seq fun found _ => ?_
  cases found with
  | false => exact .pure _
  | true =>
      refine (Narrates.look _).seq fun x hx => ?_
      obtain ⟨d, here, rfl⟩ := yields_look hx
      exact (Narrates.accessOr (fun _ => Disk.exists_system_of_readFile hfile)
        fun _ => ⟨_, rfl, rfl⟩).seq fun _ _ => .pure _

/-- With source roots that are no empty texts, a path has a package or is
refused. -/
lemma packageName_refuses (hroots : ∀ r ∈ settings.sourceRoots, r ≠ []) {e : Failure}
    (h : Layout.packageName settings.sourceRoots path = .error e) : Refuses e [] := by
  rw [Layout.packageName, Layout.sourceRoot] at h
  split at h
  · next hroot =>
      split at hroot
      · cases hroot
      · cases hroot
        cases h
        exact ⟨_, rfl, rfl⟩
  · next root hroot =>
      split at hroot
      · next r hfind =>
          obtain rfl := Except.ok.inj hroot
          rw [if_neg (hroots r (List.mem_of_find?_eq_some hfind))] at h
          split at h <;> cases h
      · cases hroot

lemma readSource_narrates (hpath : path.isPath) : Narrates [] Refuses (readSource path) := by
  rw [readSource]
  refine (Narrates.look _).seq fun x hx => ?_
  obtain ⟨d, here, rfl⟩ := yields_look hx
  exact (Narrates.accessOr (fun _ => Disk.exists_system_of_readFile hpath)
    fun _ => ⟨_, rfl, rfl⟩).seq fun _ _ => .pure _

lemma extract_narrates :
    Narrates [] (fun e t => Refuses e (findingLine ++ t)) (extract source annotationName) := by
  rw [extract, findFunctions]
  refine .seq ?_ fun sigs _ => ?_
  · refine (Narrates.log _ mem_loggers.2.1 (by decide) (by decide)).seq fun _ _ => ?_
    refine (Narrates.forM fun _ => ?_).seq fun _ _ => .pure _
    exact .log _ mem_loggers.2.1 (by decide) (by decide)
  · cases sigs with
    | nil => exact .refuse ⟨_, rfl, rfl⟩
    | cons f fs => exact .pure _

/-- The place of a test of a source file with a name is one, or is refused. -/
lemma testPlace_refuses (hname : (Path.ofText path).name ≠ []) {e : Failure}
    (h : Layout.testPlace path = .error e) : Refuses e (findingLine ++ generatingLine) := by
  rw [Layout.testPlace] at h
  dsimp only at h
  rw [if_neg hname] at h
  split at h
  · cases h
    exact ⟨_, rfl, rfl⟩
  · cases h

/-- **A draft prints both lines of progress**, or is refused after those that
come before the stage. -/
theorem draft_narrates (annotationName path : Text) (hroots : ∀ r ∈ settings.sourceRoots, r ≠ []) :
    Narrates (findingLine ++ generatingLine) Refuses (draft settings annotationName path) := by
  rw [draft]
  refine validate_narrates.seq fun _ hvalid => find_narrates.seq fun file hfind => ?_
  obtain ⟨d, here, hfile⟩ := isFile_of_validate hvalid
  have hpath := Disk.isPath_of_isFile hfile
  refine (hasTestDependencies_narrates (isPath_of_find hpath hfind)).seq fun marked _ => ?_
  cases marked with
  | false =>
      simp only [Bool.not_false, ↓reduceIte, refuse_bind]
      exact .refuse ⟨_, rfl, rfl⟩
  | true => ?_
  refine (Narrates.ofExcept fun _ => packageName_refuses hroots).seq fun package _ => ?_
  refine (Narrates.log _ mem_loggers.1 (by decide) (by decide)).seq fun _ _ => ?_
  refine (readSource_narrates hpath).seq fun source _ => ?_
  refine (Narrates.print isAscii_findingLine).bind fun _ _ => extract_narrates.seq fun sigs _ => ?_
  refine (Narrates.print isAscii_generatingLine).last fun _ _ => ?_
  refine (Narrates.ofExcept fun e he => ?_).seq fun place _ => .pure _
  simpa using testPlace_refuses (Disk.name_ne_nil_of_isFile hfile) he

/-! ### Writing -/

/-- A run has come to writing its test, whether it could write it or not. -/
def Writes : Except Failure Generated → Prop
  | .ok g => g.testPath ≠ none
  | .error e => e.IsUnwritable

variable {s s' : Session} {level : ℤ} {hs : List Handler} {dir name content : Text}
  {place : Location} {dryRun : Bool} {r : Except Failure Generated}

/-- What filling a file leaves behind. -/
lemma fill_session (path : Text) (place : Location) (content : Text) (s : Session) :
    ∃ r d, runOn (fill path place content) s = (r, { s with disk := d }) ∧
      (∀ k, k ≠ place → d.get? k = s.disk.get? k) ∧
      (place ≠ [] → (s.disk.get? place = some .faulty ∨ s.disk.get? place = some (.file [])) →
        s.disk.Grows d) := by
  cases hwhat : Encoding.utf8.refusal? content with
  | some what =>
      rw [runOn_fill_of_refused hwhat]
      exact ⟨_, s.disk, rfl, fun _ _ => rfl, fun _ _ => .refl _⟩
  | none =>
      rw [runOn_fill_of_allChars (Encoding.refusal?_utf8_eq_none_iff.mp hwhat)]
      refine ⟨_, (s.disk.fill s.host.refusal? place (Utf8.encode content)).2, Prod.ext rfl ?_,
        fun _ => Disk.get?_fill_of_ne, Disk.fill_grows⟩
      rcases (s.disk.fill s.host.refusal? place (Utf8.encode content)).1 with e | u
      · cases e <;> rfl
      · rfl

/-- The second disk has what the first one has, with directories added, but at places
where a file was that the path leads to. -/
structure Overwrites (s : Session) (path : Text) (W : Location → Prop) (d : Disk) : Prop where
  frame : ∀ l bs, ¬W l → s.disk.get? l = some (.file bs) → d.get? l = some (.file bs)
  found : s.disk.IsTree → ∀ l, W l → ∃ n, d.resolve s.here path .file = .ok (.found l n)

/-- Where no file is opened, none is changed. -/
lemma Overwrites.of_adds {d : Disk} (h : s.disk.Adds d) (path : Text) :
    Overwrites s path (fun _ => False) d :=
  ⟨fun _ _ _ => h.get?_of_some, fun _ _ => False.elim⟩

/-- A file that was there before is the only thing that is lost by opening and filling one,
and it is the one that the path leads to. -/
lemma overwrites_of_fill {d d' : Disk} {r : Except Failure Unit} (hadds : s.disk.Adds d)
    (hopen : d.openFile s.here path = .ok (d', place))
    (hfill : runOn (fill path place content) { s with disk := d' } = (r, s')) :
    ∃ d'', s' = { s with disk := d'' } ∧
      Overwrites s path (fun l => l = place ∧ s.disk.get? l ≠ none) d'' := by
  obtain ⟨hframe, hfound⟩ := Disk.openFile_frame hopen
  obtain ⟨r', d'', hfill', hframe', hgrows⟩ :=
    fill_session path place content { s with disk := d' }
  obtain ⟨-, rfl⟩ := Prod.mk.inj (hfill.symm.trans hfill')
  refine ⟨d'', rfl, fun l bs hl hbs => ?_, fun ht l hl => ?_⟩
  · have hne : l ≠ place := fun heq => hl ⟨heq, by simp [hbs]⟩
    calc d''.get? l = d'.get? l := hframe' l hne
      _ = d.get? l := hframe l hne
      _ = some (.file bs) := hadds.get?_of_some hbs
  · obtain ⟨rfl, hsome⟩ := hl
    obtain ⟨n, hn⟩ := Option.ne_none_iff_exists'.mp hsome
    obtain ⟨hg, hne, hempty⟩ := Disk.openFile_grows (hadds.isTree ht) hopen
    obtain ⟨n', -, hres⟩ := Disk.resolve_found_of_grows (hg.trans (hgrows hne hempty))
      (hfound n (hadds.get?_of_some hn))
    exact ⟨n', hres⟩

/-- Writing ends with directories added to the disk and perhaps a file changed, and
with a record where it succeeds. No file is changed unless writing has begun. -/
lemma write_outcomes (dir name content : Text) (s : Session) :
    ∃ W d, Overwrites s (Path.joinTo dir name) W d ∧
      ((∃ e, runOn (write dir name content) s = (.error e, { s with disk := d }) ∧
          ∀ l, W l → e.IsUnwritable) ∨
        ∃ p message, runOn (write dir name content) s =
          (.ok p, ({ s with disk := d } : Session).log ⟨stubLogger, Level.info, message⟩)) := by
  have hadds := Disk.makeDirs_adds (s.host.testRoom + 1) s.disk s.here dir
  rcases hrun : runOn (write dir name content) s with ⟨r, s'⟩
  cases write_course hrun with
  | @unmade d e hmake =>
      rw [hmake] at hadds
      exact ⟨_, d, .of_adds hadds _, .inl ⟨_, rfl, fun _ => False.elim⟩⟩
  | @unopened d e hmake hopen =>
      rw [hmake] at hadds
      exact ⟨_, d, .of_adds hadds _, .inl ⟨_, rfl, fun _ => False.elim⟩⟩
  | @unfilled d d' place e _ hmake hopen hfill =>
      rw [hmake] at hadds
      obtain ⟨d'', rfl, hover⟩ := overwrites_of_fill hadds hopen hfill
      have hends := fill_ends (Path.joinTo dir name) place content { s with disk := d' }
      rw [hfill] at hends
      obtain ⟨e', he, hrefused⟩ := hends.resolve_left (by simp)
      obtain rfl := Except.error.inj he
      exact ⟨_, d'', hover, .inl ⟨_, rfl, fun _ _ => hrefused.isUnwritable⟩⟩
  | @written d d' place s₂ _ hmake hopen hfill htell =>
      rw [hmake] at hadds
      obtain ⟨d'', rfl, hover⟩ := overwrites_of_fill hadds hopen hfill
      exact ⟨_, d'', hover, .inr ⟨_, _, Prod.ext rfl htell⟩⟩

/-- What is told by writing, which may change the file at the path. -/
lemma write_told (dir name content : Text) (ht : s.journal.Tuned level hs) :
    ∃ (rs : List Record) (W : Location → Prop), (∀ r ∈ rs, r.IsRoutine level) ∧
      s.Heard level hs W rs (runOn (write dir name content) s).2 ∧
      ∀ l, W l → (∀ e, (runOn (write dir name content) s).1 = .error e → e.IsUnwritable) ∧
        (s.disk.IsTree → ∃ n, (runOn (write dir name content) s).2.disk.resolve s.here
          (Path.joinTo dir name) .file = .ok (.found l n)) := by
  -- where writing succeeds it has a record more, which goes to logs and moves no file
  obtain ⟨W, d, hover, ⟨e, hrun, he⟩ | ⟨p, message, hrun⟩⟩ := write_outcomes dir name content s
  · rw [hrun]
    refine ⟨[], W, by simp, .of_disk ht hover.frame _, fun l hl => ⟨?_, fun htree => ?_⟩⟩
    · intro e' he'
      exact Except.error.inj he' ▸ he l hl
    · exact hover.found htree l hl
  · have hput : s.Heard level hs W [] { s with disk := d } := .of_disk ht hover.frame _
    obtain ⟨rs, hrs, hheard⟩ := Session.Heard.log (W := W) ⟨stubLogger, Level.info, message⟩
      hput.tuned mem_loggers.2.2.1 Level.info_pos le_rfl
    rw [hrun]
    refine ⟨rs, W, hrs, hput.trans hheard, fun l hl => ⟨by simp, fun htree => ?_⟩⟩
    obtain ⟨n, hres⟩ := hover.found htree l hl
    obtain ⟨n', -, -, hres'⟩ :=
      (Session.OnlyTold.log { s with disk := d } _).disk.resolve_found hres
    exact ⟨n', hres'⟩

/-- **What a run tells.** The only file that it may change is that of its test, if it
comes to writing it. -/
theorem generate_told (hroots : ∀ r ∈ settings.sourceRoots, r ≠ [])
    (ht : s.journal.Tuned level hs)
    (h : runOn (generate settings dryRun annotationName path) s = (r, s')) :
    ∃ (rs : List Record) (W : Location → Prop), (∀ r ∈ rs, r.IsRoutine level) ∧
      s.Heard level hs W rs s' ∧
      ∀ l, W l → Writes r ∧ (s.disk.IsTree → s'.HasTestAt path l) := by
  obtain ⟨rs, hrs, hheard⟩ := (draft_narrates annotationName path hroots).told s level hs ht
  rw [generate_eq] at h
  rcases hdraft : runOn (draft settings annotationName path) s with ⟨e | t, s₁⟩
  · rw [runOn_bind_of_error hdraft] at h
    obtain ⟨rfl, rfl⟩ := Prod.mk.inj h
    rw [hdraft] at hheard
    exact ⟨rs, _, hrs, hheard, fun _ => False.elim⟩
  rw [runOn_bind_of_ok hdraft] at h
  rw [hdraft] at hheard
  have htold := (draft_onlyTells settings annotationName path).onlyTold hdraft
  -- the draft only tells something, so that what may be changed is changed by the last stage
  cases dryRun with
  | true =>
      obtain ⟨rs', hrs', hheard'⟩ := Session.Heard.log (W := fun _ => False)
        ⟨Audit.mainLogger, Level.info,
          "Dry run: skipping write of ".toText ++ Path.joinTo t.dir t.name⟩
        hheard.tuned mem_loggers.1 Level.info_pos le_rfl
      rw [runOn_finish_dry] at h
      obtain ⟨-, rfl⟩ := Prod.mk.inj h
      refine ⟨rs ++ rs', _, ?_, hheard.trans hheard', fun _ => False.elim⟩
      simpa [or_imp, forall_and] using ⟨hrs, hrs'⟩
  | false =>
      obtain ⟨rs', W, hrs', hheard', hplace⟩ := write_told t.dir t.name t.content hheard.tuned
      rcases hwrite : runOn (write t.dir t.name t.content) s₁ with ⟨r', s₂⟩
      rw [runOn_finish_real, hwrite] at h
      rw [hwrite] at hheard' hplace
      obtain ⟨rfl, rfl⟩ := Prod.mk.inj h
      refine ⟨rs ++ rs', W, ?_, (hheard.mono fun _ => False.elim).trans hheard', fun l hl => ?_⟩
      · simpa [or_imp, forall_and] using ⟨hrs, hrs'⟩
      obtain ⟨hunwritable, hfound⟩ := hplace l hl
      refine ⟨?_, fun htree => ?_⟩
      · rcases r' with e | p
        · exact hunwritable e rfl
        · exact Option.some_ne_none p
      · obtain ⟨n, hres⟩ := hfound (htold.disk.isTree htree)
        rw [← hheard'.here] at hres
        exact ⟨t.dir, t.name, n, (draft_eq_ok hdraft).1, hres⟩

/-! ### How a run ends -/

/-- The ways in which the last stage fails, after a draft of a source file. -/
lemma finish_failure {t : Draft} {e : Failure} {s₁ : Session}
    (hdraft : runOn (draft settings annotationName path) s = (.ok t, s₁))
    (h : (runOn (finish dryRun t) s₁).1 = .error e) :
    dryRun = false ∧
      ((e = .tooDeep ∧ s.disk.LacksParents s.here (s.host.testRoom + 1) t.dir) ∨
        ¬s.disk.LacksParents s.here (s.host.testRoom + 1) t.dir ∧
          IsRefused (Path.joinTo t.dir t.name) t.content e) := by
  cases dryRun with
  | true => cases h
  | false =>
      obtain ⟨hdir, hpath, -⟩ := place_of_draft hdraft
      refine ⟨rfl, ?_⟩
      rw [runOn_finish_real] at h
      cases hend : (runOn (write t.dir t.name t.content) s₁).1 with
      | ok p =>
          rw [hend] at h
          cases h
      | error e' => ?_
      rw [hend] at h
      obtain rfl := Except.error.inj h
      by_cases hlacks : s₁.disk.LacksParents s₁.here (s₁.host.testRoom + 1) t.dir
      · rw [write_of_lacks hlacks] at hend
        exact .inl ⟨(Except.error.inj hend).symm, (lacksParents_of_draft hdraft).mp hlacks⟩
      · rcases write_of_not_lacks t.content hdir hpath hlacks with ⟨-, p, hp⟩ | ⟨e', he', hrefused⟩
        · rw [hp] at hend
          cases hend
        · obtain rfl := Except.error.inj (hend.symm.trans he')
          exact .inr ⟨mt (lacksParents_of_draft hdraft).mpr hlacks, hrefused⟩

/-- **What a run prints**, and how it fails: with an error of the generator after
the lines that come before the stage, or, after both lines, with the failure of the
missing directories or of the missing encoding. -/
theorem generate_prints (hroots : ∀ r ∈ settings.sourceRoots, r ≠ [])
    (h : runOn (generate settings dryRun annotationName path) s = (r, s')) :
    (∀ g, r = .ok g → s'.stdout = s.stdout ++ (findingLine ++ generatingLine)) ∧
      ∀ e, r = .error e → (∃ e', e = .scaffold e' ∧ s'.stdout = s.stdout ++ progress e') ∨
        (e = .tooDeep ∨ ∃ what, e = .unencodable what) ∧
          s'.stdout = s.stdout ++ (findingLine ++ generatingLine) := by
  have hnarr := draft_narrates annotationName path hroots
  rw [generate_eq] at h
  rcases hdraft : runOn (draft settings annotationName path) s with ⟨e | t, s₁⟩
  · rw [runOn_bind_of_error hdraft] at h
    obtain ⟨rfl, rfl⟩ := Prod.mk.inj h
    obtain ⟨_, ⟨e', rfl, rfl⟩, hstdout⟩ := hnarr.fails s e s₁ hdraft
    refine ⟨by simp, fun f hf => .inl ⟨e', (Except.error.inj hf).symm, hstdout⟩⟩
  · rw [runOn_bind_of_ok hdraft] at h
    have hstdout : s'.stdout = s.stdout ++ (findingLine ++ generatingLine) := by
      have hsilent := finish_silent dryRun t s₁
      rw [h] at hsilent
      exact hsilent.trans (hnarr.prints s t s₁ hdraft)
    refine ⟨fun _ _ => hstdout, fun e he => ?_⟩
    obtain ⟨-, ⟨rfl, -⟩ | ⟨-, ⟨why, rfl⟩ | ⟨what, -, rfl⟩⟩⟩ :=
      finish_failure hdraft (by rw [h]; exact he)
    · exact .inr ⟨.inl rfl, hstdout⟩
    · exact .inl ⟨_, rfl, hstdout⟩
    · exact .inr ⟨.inr ⟨what, rfl⟩, hstdout⟩

/-- A draft that fails does so with an error of the generator, in a dry run too. -/
lemma generate_of_no_draft (hroots : ∀ r ∈ settings.sourceRoots, r ≠ []) {e : Failure}
    {s₁ : Session} (hdraft : runOn (draft settings annotationName path) s = (.error e, s₁)) :
    ∃ e', ∀ dry, (runOn (generate settings dry annotationName path) s).1 =
      .error (.scaffold e') := by
  obtain ⟨_, ⟨e', rfl, -⟩, -⟩ := (draft_narrates annotationName path hroots).fails s e s₁ hdraft
  exact ⟨e', fun dry => by rw [generate_eq, runOn_bind_of_error hdraft]⟩

/-- A run gives up where it writes, a dry run succeeds, and too many directories
are missing for the test. -/
lemma generate_tooDeep_iff (dryRun : Bool) (annotationName path : Text) (s : Session)
    (hroots : ∀ r ∈ settings.sourceRoots, r ≠ []) :
    (runOn (generate settings dryRun annotationName path) s).1 = .error .tooDeep ↔
      dryRun = false ∧ (∃ g, (runOn (generate settings true annotationName path) s).1 = .ok g) ∧
        ∃ dir name, Layout.testPlace path = .ok (dir, name) ∧
          s.disk.LacksParents s.here (s.host.testRoom + 1) dir := by
  rcases hdraft : runOn (draft settings annotationName path) s with ⟨e | t, s₁⟩
  · obtain ⟨e', hend⟩ := generate_of_no_draft hroots hdraft
    simp [hend]
  have hdry := dryRun_of_draft hdraft
  have hplace := (draft_eq_ok hdraft).1
  constructor
  · intro hdeep
    rw [generate_eq, runOn_bind_of_ok hdraft] at hdeep
    obtain ⟨hreal, ⟨-, hlacks⟩ | ⟨-, hrefused⟩⟩ := finish_failure hdraft hdeep
    · exact ⟨hreal, ⟨_, hdry⟩, t.dir, t.name, hplace, hlacks⟩
    · exact absurd hrefused.isUnwritable id
  · rintro ⟨rfl, -, dir, name, hplace', hlacks⟩
    obtain ⟨rfl, rfl⟩ := Prod.mk.inj (Except.ok.inj (hplace.symm.trans hplace'))
    exact run_of_lacks hdraft hlacks

/-- A run fails for the want of an encoding where it writes, the content of a dry run has
none, and the test would have been written otherwise. -/
lemma generate_unencodable_iff (dryRun : Bool) (annotationName path what : Text) (s : Session)
    (hroots : ∀ r ∈ settings.sourceRoots, r ≠ []) :
    (runOn (generate settings dryRun annotationName path) s).1 = .error (.unencodable what) ↔
      dryRun = false ∧
        (∃ g, (runOn (generate settings true annotationName path) s).1 = .ok g ∧
          Encoding.utf8.refusal? g.content = some what) ∧
        (∃ dir name, Layout.testPlace path = .ok (dir, name) ∧
          ¬s.disk.LacksParents s.here (s.host.testRoom + 1) dir) ∧
        ∀ p why, (runOn (generate settings dryRun annotationName path) s).1 ≠
          .error (.scaffold (.testUnwritable p why)) := by
  rcases hdraft : runOn (draft settings annotationName path) s with ⟨e | t, s₁⟩
  · obtain ⟨e', hend⟩ := generate_of_no_draft hroots hdraft
    simp [hend]
  have hdry := dryRun_of_draft hdraft
  have hplace := (draft_eq_ok hdraft).1
  constructor
  · intro hwhat
    have hend := hwhat
    rw [generate_eq, runOn_bind_of_ok hdraft] at hend
    obtain ⟨hreal, ⟨hdeep, -⟩ | ⟨hlacks, ⟨why, hwhy⟩ | ⟨what', hwhat', heq⟩⟩⟩ :=
      finish_failure hdraft hend
    · cases hdeep
    · cases hwhy
    · obtain rfl := Failure.unencodable.inj heq
      exact ⟨hreal, ⟨_, hdry, hwhat'⟩, ⟨t.dir, t.name, hplace, hlacks⟩, by simp [hwhat]⟩
  · rintro ⟨rfl, ⟨g, hg, hwhat⟩, ⟨dir, name, hplace', hlacks⟩, hrefused⟩
    obtain ⟨-, -, -, hends⟩ := dryRun_agrees settings annotationName path s
    obtain ⟨-, dir', name', hplace'', -, hends⟩ := hends g hg
    obtain ⟨rfl, rfl⟩ := Prod.mk.inj (Except.ok.inj (hplace'.symm.trans hplace''))
    rcases hends hlacks with ⟨hchars, -⟩ | ⟨why, hwhy⟩ | ⟨what', hwhat', hend⟩
    · rw [Encoding.refusal?_utf8_eq_none_iff.mpr hchars] at hwhat
      cases hwhat
    · exact absurd hwhy (hrefused _ why)
    · rw [hend, Option.some.inj (hwhat.symm.trans hwhat')]

/-- **A run ends with a test or with an error of the generator**, whatever is on
the disk, links included. There are two exceptions, both in a run that writes where a
dry run succeeds: more directories are missing for the test than the host has room
for, or the test is opened and its content turns out to have no encoding. -/
theorem generate_ends (settings : Settings) (hroots : ∀ r ∈ settings.sourceRoots, r ≠ [])
    (dryRun : Bool) (annotationName path : Text) (s : Session) :
    let run := fun dry => (runOn (generate settings dry annotationName path) s).1
    let lacks := ∃ dir name, Layout.testPlace path = .ok (dir, name) ∧
      s.disk.LacksParents s.here (s.host.testRoom + 1) dir
    ((∃ g, run dryRun = .ok g) ∨ (∃ e, run dryRun = .error (.scaffold e)) ∨
        run dryRun = .error .tooDeep ∨ ∃ what, run dryRun = .error (.unencodable what)) ∧
      (run dryRun = .error .tooDeep ↔ dryRun = false ∧ (∃ g, run true = .ok g) ∧ lacks) ∧
      ∀ what, run dryRun = .error (.unencodable what) ↔
        dryRun = false ∧
          (∃ g, run true = .ok g ∧ Encoding.utf8.refusal? g.content = some what) ∧ ¬lacks ∧
          ∀ p why, run dryRun ≠ .error (.scaffold (.testUnwritable p why)) := by
  intro run lacks
  refine ⟨?_, generate_tooDeep_iff dryRun annotationName path s hroots, fun what => ?_⟩
  · rcases hrun : run dryRun with e | g
    · rcases (generate_prints hroots Prod.mk.eta.symm).2 e hrun with
        ⟨e', rfl, -⟩ | ⟨rfl | ⟨what, rfl⟩, -⟩
      · exact .inr (.inl ⟨e', rfl⟩)
      · exact .inr (.inr (.inl rfl))
      · exact .inr (.inr (.inr ⟨what, rfl⟩))
    · exact .inl ⟨g, rfl⟩
  · refine (generate_unencodable_iff dryRun annotationName path what s hroots).trans ?_
    refine and_congr_right fun _ => and_congr_right fun ⟨g, hg, _⟩ => and_congr_left fun _ => ?_
    -- a dry run that succeeds has a place for the test, and only one
    obtain ⟨-, dir, name, hplace, -⟩ := (dryRun_agrees settings annotationName path s).2.2.2 g hg
    simp [lacks, hplace]

/-- The exception, for a path of a source file with a thousand dots in it. -/
theorem generate_ends_deepSource :
    (∀ r ∈ Settings.default.sourceRoots, r ≠ []) ∧
      (runOn (generate .default false "Gen".toText deepSource)
        { oneModule with here := [] }).1 = .error .tooDeep := by
  have hroots : ∀ r ∈ Settings.default.sourceRoots, r ≠ [] := by decide
  have hdry : (runOn (generate .default true "Gen".toText deepSource)
      { oneModule with here := [] }).1.isOk = true := by
    decide +kernel
  have hmissing : oneModule.disk.exists? [] "m/src/test/kotlin".toText = false := by
    decide +kernel
  refine ⟨hroots, ((generate_ends _ hroots false _ _ _).2.1).mpr ⟨rfl, ?_, ?_⟩⟩
  · exact exists_ok_of_isOk hdry
  · exact lacksParents_deepSource oneModule_isPlain.linkFree hmissing (by decide)

end Generator

end TestScaffold
