import Mathlib.Tactic
import TestScaffold.Generator
import TestScaffold.Proofs.Session.Telling

/-!
A run of the generator as two steps: the draft of the test file, and what is
done with it.

* `generate_eq`: a run makes the draft and then finishes it, by writing it or by
  saying that it is not written.
* `draft_onlyTells`: nothing is changed on the disk for a draft, and it does not
  fail in writing.
* `draft_eq_ok`: a draft is made of a source file that can be read, for a build
  file that can be read, and for the place that the layout says.
-/

namespace TestScaffold

/-- The failure to write a test file: the system refuses it, or its content has no
octets. -/
def Failure.IsUnwritable : Failure → Prop
  | .scaffold (.testUnwritable _ _) => True
  | .unencodable _ => True
  | _ => False

namespace Generator

open TestScaffold.Action

/-- A test file before it is written, and where it is to be. -/
structure Draft where
  dir : Text
  name : Text
  content : Text
  signatures : List Signature
  deriving DecidableEq, Repr

/-- What is printed before functions are looked for. -/
def findingLine : Text := "Finding functions...\n".toText

/-- What is printed before a test file is made of them. -/
def generatingLine : Text := "Generating Unit Tests...\n".toText

lemma isAscii_findingLine : findingLine.isAscii := by decide

lemma isAscii_generatingLine : generatingLine.isAscii := by decide

/-- All stages of a run but the last one. -/
def draft (settings : Settings) (annotationName path : Text) : Action Draft := do
  validate annotationName path
  let buildFile ← BuildFile.find path
  if !(← BuildFile.hasTestDependencies buildFile settings.dependencyMarker) then
    refuse .noTestDependencies
  let package ← ofExcept (Layout.packageName settings.sourceRoots path)
  log Audit.mainLogger Level.info
    ("Package: ".toText ++
      if package = [] then "<default>".toText else package)
  let source ← readSource path
  print findingLine
  let sigs ← extract source annotationName
  print generatingLine
  let (dir, name) ← ofExcept (Layout.testPlace path)
  let contents := TestFile.render package (Path.ofText path).stem name (Stub.renderAll sigs)
  return ⟨dir, name, contents, sigs⟩

/-- The last stage of a run. -/
def finish (dryRun : Bool) (t : Draft) : Action Generated :=
  if dryRun then do
    log Audit.mainLogger Level.info
      ("Dry run: skipping write of ".toText ++ Path.joinTo t.dir t.name)
    return ⟨none, t.content, t.signatures⟩
  else
    return ⟨some (← write t.dir t.name t.content), t.content, t.signatures⟩

/-- **A run makes a draft and finishes it.** -/
theorem generate_eq (settings : Settings) (dryRun : Bool) (annotationName path : Text) :
    generate settings dryRun annotationName path =
      draft settings annotationName path >>= finish dryRun := by
  rw [generate, draft]
  simp only [bind_assoc]
  refine bind_congr fun _ => bind_congr fun buildFile => bind_congr fun marked => ?_
  cases marked with
  | false => simp only [Bool.not_false, ↓reduceIte, refuse_bind]
  | true =>
      simp only [Bool.not_true, Bool.false_eq_true, ↓reduceIte, bind_assoc, pure_bind]
      rfl

/-- A dry run says that the test is not written, -/
lemma runOn_finish_dry (t : Draft) (s : Session) :
    runOn (finish true t) s = (.ok ⟨none, t.content, t.signatures⟩, s.log ⟨Audit.mainLogger,
      Level.info, "Dry run: skipping write of ".toText ++ Path.joinTo t.dir t.name⟩) := rfl

/-- and any other run ends as writing it does. -/
lemma runOn_finish_real (t : Draft) (s : Session) :
    runOn (finish false t) s =
      ((runOn (write t.dir t.name t.content) s).1.map fun p => ⟨some p, t.content, t.signatures⟩,
        (runOn (write t.dir t.name t.content) s).2) := by
  rw [finish, if_neg (by simp), runOn_bind]
  rcases runOn (write t.dir t.name t.content) s with ⟨e | p, s'⟩
  · rfl
  · rfl

/-! ### What a draft leaves behind -/

section

variable {E : Failure → Prop} {annotationName path file marker source : Text}

/-- A stage may fail in any way but writing. -/
lemma validate_onlyTells : OnlyTells (¬·.IsUnwritable) (validate annotationName path) := by
  rw [validate]
  refine .ite (.refuse id) (.ite (.refuse id) ?_)
  exact (OnlyTells.look _).bind fun _ => .ite (.pure _) (.refuse id)

/-- The build file is only looked for. -/
lemma find_onlyTells : OnlyTells (¬·.IsUnwritable) (BuildFile.find path) := by
  rw [BuildFile.find]
  refine .bind (.ofExcept ?_) fun root => (OnlyTells.look _).bind fun dir => .ite ?_ ?_
  · intro e he
    unfold Layout.moduleRoot at he
    dsimp only at he
    split at he
    · cases he
      exact id
    · cases he
  · refine OnlyTells.host.bind fun host => (OnlyTells.look _).bind fun unlistable => ?_
    cases unlistable with
    | some e => exact .refuse id
    | none => ?_
    refine (OnlyTells.look _).bind fun found => ?_
    cases found with
    | some name => exact (OnlyTells.log _ _ _).bind fun _ => .pure _
    | none => exact (OnlyTells.log _ _ _).bind fun _ => .refuse id
  · exact (OnlyTells.log _ _ _).bind fun _ => .refuse id

lemma hasTestDependencies_onlyTells :
    OnlyTells (¬·.IsUnwritable) (BuildFile.hasTestDependencies file marker) := by
  rw [BuildFile.hasTestDependencies]
  refine (OnlyTells.look _).bind fun _ => .ite ?_ (.pure _)
  exact (OnlyTells.look _).bind fun _ =>
    (OnlyTells.accessOr (fun _ => id) (fun _ => id) id).bind fun _ => .pure _

/-- A path without a package is not a test that could not be written. -/
lemma packageName_failure {roots : List Text} {e : Failure}
    (h : Layout.packageName roots path = .error e) : ¬e.IsUnwritable := by
  rw [Layout.packageName, Layout.sourceRoot] at h
  split at h
  · next hroot =>
      split at hroot
      · cases hroot
      · cases hroot
        cases h
        exact id
  · split at h
    · cases h
      exact id
    · split at h <;> cases h

lemma testPlace_failure {e : Failure} (h : Layout.testPlace path = .error e) :
    ¬e.IsUnwritable := by
  rw [Layout.testPlace] at h
  dsimp only at h
  split at h
  · cases h
    exact id
  · split at h
    · cases h
      exact id
    · cases h

lemma readSource_onlyTells : OnlyTells (¬·.IsUnwritable) (readSource path) := by
  rw [readSource]
  exact (OnlyTells.look _).bind fun _ =>
    (OnlyTells.accessOr (fun _ => id) (fun _ => id) id).bind fun _ => .pure _

lemma extract_onlyTells : OnlyTells (¬·.IsUnwritable) (extract source annotationName) := by
  rw [extract, findFunctions]
  refine .bind ?_ fun sigs => ?_
  · exact (OnlyTells.log _ _ _).bind fun _ =>
      (OnlyTells.forM fun _ => .log _ _ _).bind fun _ => .pure _
  · cases sigs with
    | nil => exact .refuse id
    | cons f fs => exact .pure _

end

/-- **A draft only tells**, and it does not fail in writing. -/
theorem draft_onlyTells (settings : Settings) (annotationName path : Text) :
    OnlyTells (¬·.IsUnwritable) (draft settings annotationName path) := by
  rw [draft]
  refine validate_onlyTells.bind fun _ => find_onlyTells.bind fun buildFile =>
    hasTestDependencies_onlyTells.bind fun marked => ?_
  cases marked with
  | false =>
      simp only [Bool.not_false, ↓reduceIte, refuse_bind]
      exact .refuse id
  | true => ?_
  refine (OnlyTells.ofExcept fun _ => packageName_failure).bind fun package => ?_
  refine (OnlyTells.log _ _ _).bind fun _ => readSource_onlyTells.bind fun source => ?_
  refine (OnlyTells.print isAscii_findingLine).bind fun _ => extract_onlyTells.bind fun sigs => ?_
  refine (OnlyTells.print isAscii_generatingLine).bind fun _ => ?_
  exact (OnlyTells.ofExcept fun _ => testPlace_failure).bind fun _ => .pure _

/-! ### What a draft is made of -/

variable {s s' : Session} {annotationName path : Text}

/-- Nothing is told about arguments that are right. -/
lemma validate_eq_ok (h : runOn (validate annotationName path) s = (.ok (), s')) : s' = s := by
  rw [validate] at h
  split at h
  · simp at h
  split at h
  · simp at h
  rw [runOn_look_bind] at h
  split at h
  · simpa using h.symm
  · simp at h

/-- What is found is the first build file in the directory of the module, which is there
and can be listed. -/
lemma find_eq_ok {file : Text} (h : runOn (BuildFile.find path) s = (.ok file, s')) :
    ∃ root name, Layout.moduleRoot path = .ok root ∧ s.disk.isDir s.here root ∧
      BuildFile.unlistable? s.host s.disk s.here root = none ∧
      BuildFile.names.find? (BuildFile.hasEntry s.disk s.here root) = some name ∧
      file = root ++ char '/' :: name := by
  rw [BuildFile.find] at h
  rw [runOn_bind_eq_ok] at h
  obtain ⟨root, s₁, hroot, h⟩ := h
  rw [runOn_ofExcept] at hroot
  obtain ⟨hroot, rfl⟩ := Prod.mk.inj hroot
  have hroot' : Layout.moduleRoot path = .ok root := by
    cases hm : Layout.moduleRoot path with
    | error e => simp [hm, Except.mapError] at hroot
    | ok r => simpa [hm, Except.mapError] using hroot
  rw [runOn_look_bind] at h
  split at h
  · next hdir =>
      rw [runOn_host_bind, runOn_look_bind] at h
      split at h
      · simp at h
      next hlisted =>
      rw [runOn_look_bind] at h
      split at h
      · next name hname =>
          refine ⟨root, name, hroot', hdir, hlisted, hname, ?_⟩
          simpa using (Prod.mk.inj h).1.symm
      · simp at h
  · simp at h

lemma hasTestDependencies_eq_true {file marker : Text}
    (h : runOn (BuildFile.hasTestDependencies file marker) s = (.ok true, s')) :
    s' = s ∧ ∃ bs, s.disk.readFile s.here file = .ok bs := by
  rw [BuildFile.hasTestDependencies] at h
  rw [runOn_look_bind] at h
  split at h
  · rw [runOn_look_bind] at h
    rw [runOn_bind_eq_ok] at h
    obtain ⟨bs, s₁, hread, h⟩ := h
    obtain ⟨hread, rfl⟩ := runOn_accessOr_eq_ok.mp hread
    rw [runOn_pure] at h
    exact ⟨(Prod.mk.inj h).2.symm, bs, hread⟩
  · simp at h

/-- A source that was read is a file. -/
lemma readSource_eq_ok {source : Text} (h : runOn (readSource path) s = (.ok source, s')) :
    ∃ bs, s.disk.readFile s.here path = .ok bs := by
  rw [readSource] at h
  rw [runOn_look_bind] at h
  rw [runOn_bind_eq_ok] at h
  obtain ⟨bs, s₁, hread, -⟩ := h
  exact ⟨bs, (runOn_accessOr_eq_ok.mp hread).1⟩

/-- **What a draft is made of.** The build file and the source are files that
can be read, and the test is to be where the layout says. -/
theorem draft_eq_ok {settings : Settings} {t : Draft}
    (h : runOn (draft settings annotationName path) s = (.ok t, s')) :
    Layout.testPlace path = .ok (t.dir, t.name) ∧ t.content ≠ [] ∧
      (∃ s₁ bs, s.OnlyTold s₁ ∧ s₁.disk.readFile s₁.here path = .ok bs) ∧
      (∃ package, Layout.packageName settings.sourceRoots path = .ok package) ∧
      ∃ file s₁ bs, runOn (BuildFile.find path) s = (.ok file, s₁) ∧
        s₁.disk.readFile s₁.here file = .ok bs := by
  -- one stage after the other: each has succeeded, or there would be no draft
  rw [draft] at h
  rw [runOn_bind_eq_ok] at h
  obtain ⟨_, s₀, hvalid, h⟩ := h
  obtain rfl := validate_eq_ok hvalid
  rw [runOn_bind_eq_ok] at h
  obtain ⟨file, s₁, hfind, h⟩ := h
  have htold := find_onlyTells.onlyTold hfind
  rw [runOn_bind_eq_ok] at h
  obtain ⟨marked, s₂, hmarked, h⟩ := h
  cases marked with
  | false =>
      simp only [Bool.not_false, ↓reduceIte, refuse_bind, runOn_refuse] at h
      simp at h
  | true => ?_
  obtain ⟨rfl, bs, hbuild⟩ := hasTestDependencies_eq_true hmarked
  simp only [Bool.not_true, Bool.false_eq_true, ↓reduceIte] at h
  rw [runOn_bind_eq_ok] at h
  obtain ⟨package, s₃, hnamed, h⟩ := h
  rw [runOn_ofExcept] at hnamed
  obtain ⟨hpackage, rfl⟩ := Prod.mk.inj hnamed
  rw [runOn_log_bind] at h
  rw [runOn_bind_eq_ok] at h
  obtain ⟨source, s₄, hsource, h⟩ := h
  obtain ⟨bs', hread⟩ := readSource_eq_ok hsource
  rw [runOn_bind_of_ok (runOn_print_of_ascii isAscii_findingLine _)] at h
  rw [runOn_bind_eq_ok] at h
  obtain ⟨sigs, s₅, -, h⟩ := h
  rw [runOn_bind_of_ok (runOn_print_of_ascii isAscii_generatingLine _)] at h
  rw [runOn_bind_eq_ok] at h
  obtain ⟨place, s₆, hplace, h⟩ := h
  have hplace := (Prod.mk.inj (runOn_ofExcept _ ▸ hplace)).1
  obtain rfl : _ = t := by simpa using (Prod.mk.inj h).1
  exact ⟨hplace, by simp [TestFile.render], ⟨_, bs', htold.trans (.log _ _), hread⟩,
    ⟨package, hpackage⟩, file, s₂, bs, hfind, hbuild⟩

end Generator

end TestScaffold
