import TestScaffold.Proofs.Path.Names
import TestScaffold.Proofs.Text.Occurrences
import TestScaffold.Settings

/-!
The layout of a module, read off a path in several ways that agree.

* An `Address` says where a file stands: its module, its language, its
  directories and its name. `Address.path` spells it in a source set, which is
  `main` for a source and `test` for its test.
* `moduleRoot_append`, `packageName_append` and `testPlace_append` cut a path
  where the address has its seams. Each of them asks that what it looks for does
  not occur earlier; `Address.Regular` has the conditions on an address that
  give all of these.
* `layout_mirror`: the cuts agree. **A test has the module and the package of
  its source.**
-/

namespace TestScaffold.Layout

/-! ### Seams of a path -/

/-- A path is cut at its first `/src`, which has one slash, so no other one begins
before it and ends in it. -/
lemma cut?_src_eq_some_iff {path root rest : Text} :
    Text.cut? "/src".toText path = some (root, rest) ↔
      path = root ++ ("/src".toText ++ rest) ∧ ¬"/src".toText <:+: root := by
  rw [Text.cut?_eq_some_iff (by decide)]
  refine and_congr_right fun _ => not_congr ⟨fun h => ?_, fun h =>
    h.trans (List.prefix_append root _).isInfix⟩
  rcases Text.infix_append_cons_of_cut (a := []) (b := "src".toText) (t := "sr".toText)
    (by simp) (by decide) h with h | ⟨-, h⟩ | h
  · exact h
  · exact absurd h (by decide)
  · exact absurd h (by decide)

/-- A module is in a directory that has a name. -/
def named (root : Text) : Except ScaffoldError Text :=
  if root = [] then .error .noModuleRoot else .ok root

lemma named_eq_ok_iff {a b : Text} : named a = .ok b ↔ a ≠ [] ∧ a = b := by
  by_cases ha : a = [] <;> simp [named, ha]

/-- What stands before the first `/src` is the module. -/
lemma moduleRoot_append {root : Text} (hne : root ≠ []) (hroot : ¬"/src".toText <:+: root)
    (rest : Text) : moduleRoot (root ++ ("/src".toText ++ rest)) = .ok root := by
  have hnamed : moduleRoot (root ++ ("/src".toText ++ rest)) =
      named (Text.before "/src".toText (root ++ ("/src".toText ++ rest))) := rfl
  rw [hnamed, Text.before, cut?_src_eq_some_iff.mpr ⟨rfl, hroot⟩]
  exact named_eq_ok_iff.mpr ⟨hne, rfl⟩

/-- The directory of a module is what stands before the first `/src`, or the whole
path if there is none. -/
lemma moduleRoot_eq_named (path : Text) :
    (¬"/src".toText <:+: path ∧ moduleRoot path = named path) ∨
      ∃ up rest, path = up ++ ("/src".toText ++ rest) ∧ ¬"/src".toText <:+: up ∧
        moduleRoot path = named up := by
  have hroot : moduleRoot path = named (Text.before "/src".toText path) := rfl
  rw [hroot, Text.before]
  cases hcut : Text.cut? "/src".toText path with
  | none => exact .inl ⟨Text.cut?_eq_none_iff.mp hcut, rfl⟩
  | some p =>
      obtain ⟨hpath, hfirst⟩ := cut?_src_eq_some_iff.mp hcut
      exact .inr ⟨p.1, p.2, hpath, hfirst, rfl⟩

lemma moduleRoot_cases {path root : Text} (h : moduleRoot path = .ok root) :
    root ≠ [] ∧ ((root = path ∧ ¬"/src".toText <:+: path) ∨
      ∃ more, path = root ++ ("/src".toText ++ more) ∧ ¬"/src".toText <:+: root) := by
  rcases moduleRoot_eq_named path with ⟨hnone, hroot⟩ | ⟨up, more, hpath, hfirst, hroot⟩
  · obtain ⟨hne, rfl⟩ := named_eq_ok_iff.mp (hroot.symm.trans h)
    exact ⟨hne, .inl ⟨rfl, hnone⟩⟩
  · obtain ⟨hne, rfl⟩ := named_eq_ok_iff.mp (hroot.symm.trans h)
    exact ⟨hne, .inr ⟨more, hpath, hfirst⟩⟩

/-- The package that directories name, each with a slash after it. -/
def dotted (dirs : Text) : Text := dirs.dropLast.map fun c => if c = char '/' then char '.' else c

/-- Directories and a file name below the source root make the package of the directories.
-/
lemma packageOf_append {dirs name : Text} (hdirs : dirs = [] ∨ dirs.getLast? = some (char '/'))
    (hname : char '/' ∉ name) : packageOf (char '/' :: (dirs ++ name)) = dotted dirs := by
  rcases hdirs with rfl | hdirs
  · have hcut : Text.cutLast (char '/') (char '/' :: name) = ([], name) :=
      Text.cutLast_append_cons [] hname
    rw [packageOf, List.nil_append, hcut]
    rfl
  · obtain ⟨d, rfl⟩ := List.getLast?_eq_some_iff.mp hdirs
    have hcut : Text.cutLast (char '/') (char '/' :: (d ++ [char '/'] ++ name)) =
        (char '/' :: d, name) := by
      have hassoc :
          char '/' :: (d ++ [char '/'] ++ name) = (char '/' :: d) ++ char '/' :: name := by simp
      rw [hassoc, Text.cutLast_append_cons _ hname]
    rw [packageOf, hcut, dotted, List.dropLast_concat]
    rfl

/-- A path is cut after the first occurrence of its source root. -/
lemma packageName_append {roots : List Text} {front root dirs name : Text} (hne : root ≠ [])
    (hroot : sourceRoot roots (front ++ (root ++ char '/' :: (dirs ++ name))) = .ok root)
    (hfirst : ¬root <:+: front ++ root.dropLast)
    (hdirs : dirs = [] ∨ dirs.getLast? = some (char '/')) (hname : char '/' ∉ name) :
    packageName roots (front ++ (root ++ char '/' :: (dirs ++ name))) = .ok (dotted dirs) := by
  have hcut := Text.cut?_append hne hfirst (char '/' :: (dirs ++ name))
  simp only [packageName, hroot, hne, ↓reduceIte, hcut, packageOf_append hdirs hname]

/-- A name that stands after a directory and not before its end is where the
path is cut. -/
lemma testPlace_append {up name : Text} (hname : Path.IsName name) (hnew : ¬name <:+: up)
    (htest : Text.replaceFirst "main".toText "test".toText (up ++ [char '/']) ≠ []) :
    testPlace (up ++ [char '/'] ++ name) =
      .ok (Text.replaceFirst "main".toText "test".toText (up ++ [char '/']),
        (Path.ofText name).stem ++ "Test".toText ++ (Path.ofText name).suffix) := by
  have hassoc : up ++ [char '/'] ++ name = up ++ char '/' :: name := by simp
  have hlast : (Path.ofText (up ++ [char '/'] ++ name)).name = name := by
    rw [hassoc, hname.name_append_slash]
  have hself : (Path.ofText name).name = name := hname.name_eq
  have hfirst : ¬name <:+: up ++ [char '/'] ++ name.dropLast := by
    have hassoc' : up ++ [char '/'] ++ name.dropLast = up ++ char '/' :: name.dropLast := by simp
    rw [hassoc', Text.infix_append_cons hname.notMem]
    rintro (h | h)
    · exact hnew h
    · have hlen := h.length_le
      have hpos := List.length_pos_of_ne_nil hname.ne_nil
      rw [List.length_dropLast] at hlen
      omega
  have hbefore : Text.before name (up ++ [char '/'] ++ name) = up ++ [char '/'] := by
    have h := Text.before_append hname.ne_nil hfirst []
    rwa [List.append_nil] at h
  rw [testPlace]
  simp only [hlast, hname.ne_nil, ↓reduceIte, hbefore, testFileName, Path.stem, Path.suffix, hself]
  exact if_neg htest

/-! ### Addresses -/

/-- The languages that there are source roots for. -/
inductive Language
  | kotlin
  | java
  deriving DecidableEq, Repr

def Language.name : Language → Text
  | .kotlin => "kotlin".toText
  | .java => "java".toText

/-- The directory of the sources of a language in a source set, as seen from
the module. -/
def setRoot (set : Text) (l : Language) : Text := "src/".toText ++ (set ++ char '/' :: l.name)

lemma setRoot_ne_nil (set : Text) (l : Language) : setRoot set l ≠ [] := by
  simp [setRoot]

/-- Where a file stands: the directory of its module, its language, the
directories of its package, each with a slash after it, and its name. -/
structure Address where
  root : Text
  language : Language
  dirs : Text
  name : Text
  deriving DecidableEq, Repr

namespace Address

/-- The directory of the file in a source set. -/
def dir (a : Address) (set : Text) : Text :=
  a.root ++ char '/' :: (setRoot set a.language ++ char '/' :: a.dirs)

/-- The path of the file in a source set. -/
def path (a : Address) (set : Text) : Text := a.dir set ++ a.name

/-- The address of the test of the file. -/
def test (a : Address) : Address :=
  { a with name := (Path.ofText a.name).stem ++ "Test".toText ++ (Path.ofText a.name).suffix }

/-- An address that paths can be cut back to: what is looked for in a path does
not occur before the place where the address has it. -/
structure Regular (a : Address) : Prop where
  root_ne_nil : a.root ≠ []
  root_main : ¬"main".toText <:+: a.root
  root_src : ¬"/src".toText <:+: a.root
  root_test : ¬"src/test".toText <:+: a.root
  dirs_closed : a.dirs = [] ∨ a.dirs.getLast? = some (char '/')
  isName : Path.IsName a.name
  name_new : ¬a.name <:+: a.dir "main".toText
  java : a.language = .java → ¬"src/main/kotlin".toText <:+: a.path "main".toText

variable {a : Address}

lemma path_eq_src (a : Address) (set : Text) :
    a.path set = a.root ++ ("/src".toText ++ char '/' :: (set ++ char '/' :: (a.language.name ++
      char '/' :: (a.dirs ++ a.name)))) := by
  simp [path, dir, setRoot]

lemma path_eq_setRoot (a : Address) (set : Text) :
    a.path set =
      a.root ++ [char '/'] ++ (setRoot set a.language ++ char '/' :: (a.dirs ++ a.name)) := by
  simp [path, dir]

/-- The source root of each language occurs in a path of it. -/
lemma contains_setRoot (a : Address) (set : Text) :
    Text.contains (setRoot set a.language) (a.path set) = true :=
  Text.contains_iff.mpr
    ⟨a.root ++ [char '/'], char '/' :: (a.dirs ++ a.name), by simp [path_eq_setRoot]⟩

/-- A directory of an address ends with a slash. -/
lemma exists_dir_eq (hdirs : a.dirs = [] ∨ a.dirs.getLast? = some (char '/')) (set : Text) :
    ∃ up, a.dir set = up ++ [char '/'] := by
  rcases hdirs with hdirs | hdirs
  · exact ⟨a.root ++ char '/' :: setRoot set a.language, by simp [dir, hdirs]⟩
  · obtain ⟨d, hd⟩ := List.getLast?_eq_some_iff.mp hdirs
    exact ⟨a.root ++ char '/' :: (setRoot set a.language ++ char '/' :: d), by simp [dir, hd]⟩

/-- The name of the test is that of the test file of a path with only the name
of the source. -/
lemma notMem_testName (a : Address) : char '/' ∉ a.test.name := (isName_testFileName a.name).notMem

/-! ### First occurrences -/

/-- The first `main` of a path is that of its source set. -/
lemma main_first (hmain : ¬"main".toText <:+: a.root) :
    ¬"main".toText <:+: a.root ++ "/src/".toText ++ "main".toText.dropLast := by
  have hsplit : a.root ++ "/src/".toText ++ "main".toText.dropLast =
      a.root ++ char '/' :: ("src".toText ++ char '/' :: "mai".toText) := by simp
  rw [hsplit, Text.infix_append_cons (by decide), Text.infix_append_cons (by decide)]
  rintro (h | h | h)
  · exact hmain h
  · exact absurd h (by decide)
  · exact absurd h (by decide)

/-- With the first `main` turned into `test`, the directory of a source is that
of its test. -/
lemma replaceFirst_dir (hmain : ¬"main".toText <:+: a.root) :
    Text.replaceFirst "main".toText "test".toText (a.dir "main".toText) =
      a.dir "test".toText := by
  have hdir : ∀ set, a.dir set = a.root ++ "/src/".toText ++
      (set ++ char '/' :: (a.language.name ++ char '/' :: a.dirs)) := fun set => by
    simp [dir, setRoot]
  rw [hdir, hdir, Text.replaceFirst_append (by decide) (main_first hmain), List.append_assoc]

/-- The test of a source is put at the address of the test, if the first `main` is that of
the source set and the name is at the end only. -/
lemma testPlace_path (hmain : ¬"main".toText <:+: a.root)
    (hdirs : a.dirs = [] ∨ a.dirs.getLast? = some (char '/')) (hname : Path.IsName a.name)
    (hnew : ¬a.name <:+: a.dir "main".toText) :
    testPlace (a.path "main".toText) = .ok (a.dir "test".toText, a.test.name) := by
  obtain ⟨up, hup⟩ := exists_dir_eq hdirs "main".toText
  have hnew' : ¬a.name <:+: up := fun h =>
    hnew (hup ▸ h.trans (List.prefix_append up _).isInfix)
  have hdir := replaceFirst_dir hmain
  rw [hup] at hdir
  have hne : Text.replaceFirst "main".toText "test".toText (up ++ [char '/']) ≠ [] := by
    rw [hdir]
    simp [dir]
  rw [path, hup, testPlace_append hname hnew' hne, hdir]
  rfl

namespace Regular

/-- It does not occur before it stands there, so that the cut is where it should be. -/
lemma mainRoot_first (ha : a.Regular) :
    ¬setRoot "main".toText a.language <:+:
      a.root ++ [char '/'] ++ (setRoot "main".toText a.language).dropLast := by
  refine Text.not_infix_append_dropLast (a := "src/".toText) (q := "main".toText) rfl
    (by decide) ?_
  simpa using main_first ha.root_main

/-- The same for the path of the test. -/
lemma testRoot_first (ha : a.Regular) :
    ¬setRoot "test".toText a.language <:+:
      a.root ++ [char '/'] ++ (setRoot "test".toText a.language).dropLast := by
  refine Text.not_infix_append_dropLast (a := []) (q := "src/test".toText)
    (b := char '/' :: a.language.name) (by simp [setRoot]) (by decide) fun h => ?_
  have hsplit : a.root ++ [char '/'] ++ [] ++ "src/test".toText.dropLast =
      a.root ++ char '/' :: "src/tes".toText := by simp
  rw [hsplit] at h
  rcases Text.infix_append_cons_of_cut (a := "src".toText) (b := "test".toText)
    (by decide) (by decide) h with h | ⟨-, h⟩ | h
  · exact ha.root_test h
  · exact absurd h (by decide)
  · exact absurd h (by decide)

/-! ### The cuts -/

lemma sourceRoot_path (ha : a.Regular) :
    sourceRoot Settings.default.sourceRoots (a.path "main".toText) =
      .ok (setRoot "main".toText a.language) := by
  have hoccurs := a.contains_setRoot "main".toText
  have hroots : Settings.default.sourceRoots =
      [setRoot "main".toText .kotlin, setRoot "main".toText .java] := rfl
  rw [sourceRoot, hroots]
  cases hl : a.language with
  | kotlin =>
      rw [hl] at hoccurs
      simp only [List.find?_cons, hoccurs]
  | java =>
      rw [hl] at hoccurs
      have hnot : Text.contains (setRoot "main".toText .kotlin) (a.path "main".toText) = false :=
        Bool.not_eq_true _ ▸ fun h => ha.java hl (Text.contains_iff.mp h)
      simp only [List.find?_cons, hnot, hoccurs]

lemma testPlace_path (ha : a.Regular) :
    testPlace (a.path "main".toText) = .ok (a.dir "test".toText, a.test.name) :=
  Address.testPlace_path ha.root_main ha.dirs_closed ha.isName ha.name_new

end Regular

end Address

/-- **A test has the module and the package of its source.** The module, the
package and the place of the test are cut from the path of a source on their
own, and they agree with the address of the source; cut from the path of the
test, where the source root is that of tests, module and package are the
same. -/
theorem layout_mirror (a : Address) (ha : a.Regular) :
    moduleRoot (a.path "main".toText) = .ok a.root ∧
    packageName Settings.default.sourceRoots (a.path "main".toText) = .ok (dotted a.dirs) ∧
    testPlace (a.path "main".toText) =
      .ok (a.dir "test".toText,
        (Path.ofText a.name).stem ++ "Test".toText ++ (Path.ofText a.name).suffix) ∧
    (Path.ofText a.name).stem ++ (Path.ofText a.name).suffix = a.name ∧
    moduleRoot (a.test.path "test".toText) = .ok a.root ∧
    packageName [setRoot "test".toText a.language] (a.test.path "test".toText) =
      .ok (dotted a.dirs) := by
  refine ⟨?_, ?_, ha.testPlace_path, ?_, ?_, ?_⟩
  · rw [a.path_eq_src]
    exact moduleRoot_append ha.root_ne_nil ha.root_src _
  · have hroot := ha.sourceRoot_path
    rw [a.path_eq_setRoot] at hroot ⊢
    exact packageName_append (setRoot_ne_nil _ _) hroot ha.mainRoot_first ha.dirs_closed
      ha.isName.notMem
  · rw [Path.stem_append_suffix]
    exact ha.isName.name_eq
  · rw [a.test.path_eq_src]
    exact moduleRoot_append ha.root_ne_nil ha.root_src _
  · have hroot : sourceRoot [setRoot "test".toText a.language]
        (a.test.path "test".toText) = .ok (setRoot "test".toText a.language) := by
      have hoccurs : Text.contains (setRoot "test".toText a.language)
          (a.test.path "test".toText) = true := a.test.contains_setRoot _
      simp only [sourceRoot, List.find?_cons, hoccurs]
    rw [a.test.path_eq_setRoot] at hroot ⊢
    exact packageName_append (setRoot_ne_nil _ _) hroot ha.testRoot_first ha.dirs_closed
      a.notMem_testName

/-- An address in which most of what is looked for occurs again. -/
def nested : Address :=
  ⟨"src/a.src/tes".toText, .java, "src/main/java/tmain/src//".toText, ".b.main.kt".toText⟩

theorem layout_mirror_nested : nested.Regular ∧
    moduleRoot "src/a.src/tes/src/main/java/src/main/java/tmain/src//.b.main.kt".toText =
      .ok "src/a.src/tes".toText ∧
    testPlace "src/a.src/tes/src/main/java/src/main/java/tmain/src//.b.main.kt".toText =
      .ok ("src/a.src/tes/src/test/java/src/main/java/tmain/src//".toText,
        ".b.mainTest.kt".toText) ∧
    packageName ["src/test/java".toText]
        "src/a.src/tes/src/test/java/src/main/java/tmain/src//.b.mainTest.kt".toText =
      .ok "src.main.java.tmain.src.".toText := by
  have hregular : nested.Regular :=
    ⟨by decide, by decide, by decide, by decide, by decide, by decide, by decide, by decide⟩
  obtain ⟨hroot, -, hplace, -, -, hpackage⟩ := layout_mirror nested hregular
  exact ⟨hregular, hroot, hplace, hpackage⟩

end TestScaffold.Layout
