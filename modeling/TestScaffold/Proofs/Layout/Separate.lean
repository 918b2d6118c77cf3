import TestScaffold.Proofs.Layout.Apart
import TestScaffold.Proofs.Layout.Mirror

/-!
The tests of different sources of a module.

* `testNameOf_inj`: a name is determined by the name of its test, unless it ends in a dot.
* `Address.Proper` is an address of a source whose test is put at the address of the test.
  `testPath_inj` and `ofText_testPath_inj`: **the spelling of a test determines that of its
  source**, and so it does up to repeated slashes and single dots.
* Two dots may lead out of the source set again. `Fork` relates where the directory of a
  source is to where that of its test is: as far below the one source set as below the other,
  or at the same place outside of both.
* `placeOf_testPath_eq_iff`: **tests of different sources are at one place exactly if one of
  the sources stands in the directory of the other's test, under the other's name.** Its
  directories lead out of its source set then (`not_standsBy_of_staysIn`).
-/

namespace TestScaffold

namespace Path

/-! ### Names of tests -/

variable {c c' : Text}

/-- The name of the test of a source with the name. -/
def testNameOf (c : Text) : Text := (splitSuffix c).1 ++ "Test".toText ++ (splitSuffix c).2

/-- A name that does not end in a dot is cut at its last dot, or has none after its
beginning. -/
lemma splitSuffix_cases (hlast : c.getLast? ≠ some (char '.')) :
    (∃ p q, c = p ++ char '.' :: q ∧ p ≠ [] ∧ char '.' ∉ q ∧ splitSuffix c = (p, char '.' :: q)) ∨
      char '.' ∉ c.tail ∧ splitSuffix c = (c, []) := by
  rcases Text.cutLast_cases (char '.') c with ⟨hnone, hcut⟩ | ⟨p, q, rfl, hq, hcut⟩
  · exact .inr ⟨fun h => hnone (List.mem_of_mem_tail h), by simp [splitSuffix, hcut]⟩
  · have hq' : q ≠ [] := by
      rintro rfl
      simp at hlast
    by_cases hp : p = []
    · rw [splitSuffix, hcut]
      exact .inr ⟨by simpa [hp] using hq, if_neg fun h => h.1 hp⟩
    · rw [splitSuffix, hcut]
      exact .inl ⟨p, q, rfl, hp, hq, if_pos ⟨hp, hq'⟩⟩

/-- The name of a test has a dot after its beginning where the name of the source is cut,
and nowhere else. -/
lemma mem_tail_testNameOf_iff (hne : c ≠ []) (hlast : c.getLast? ≠ some (char '.')) :
    char '.' ∈ (testNameOf c).tail ↔ (splitSuffix c).2 ≠ [] := by
  rcases splitSuffix_cases hlast with ⟨p, q, -, hp, -, hsplit⟩ | ⟨hnone, hsplit⟩
  · obtain ⟨d, p, rfl⟩ := List.exists_cons_of_ne_nil hp
    simp [testNameOf, hsplit]
  · obtain ⟨d, t, rfl⟩ := List.exists_cons_of_ne_nil hne
    simpa [testNameOf, hsplit] using hnone

/-- **A name is determined by the name of its test.** -/
theorem testNameOf_inj (hne : c ≠ []) (hne' : c' ≠ []) (hlast : c.getLast? ≠ some (char '.'))
    (hlast' : c'.getLast? ≠ some (char '.')) (h : testNameOf c = testNameOf c') : c = c' := by
  have hdot := mem_tail_testNameOf_iff hne hlast
  rw [h, mem_tail_testNameOf_iff hne' hlast'] at hdot
  rcases splitSuffix_cases hlast with ⟨p, q, hc, -, hq, hsplit⟩ | ⟨-, hsplit⟩ <;>
    rcases splitSuffix_cases hlast' with ⟨p', q', hc', -, hq', hsplit'⟩ | ⟨-, hsplit'⟩
  · -- both tests are cut at their last dots
    have hcut := congrArg (Text.cutLast (char '.')) h
    simp only [testNameOf, hsplit, hsplit', Text.cutLast_append_cons _ hq,
      Text.cutLast_append_cons _ hq', Prod.mk.injEq, List.append_cancel_right_eq] at hcut
    rw [hc, hc', hcut.1, hcut.2]
  · simp [hsplit, hsplit'] at hdot
  · simp [hsplit, hsplit'] at hdot
  · simpa [testNameOf, hsplit, hsplit'] using h

/-- The slashes at the beginning of a path are before its first letter. -/
lemma leadingSlashes_append {d : CodePoint} (hd : d ≠ char '/') (p s t : Text) :
    leadingSlashes (p ++ char '/' :: d :: s) = leadingSlashes (p ++ char '/' :: d :: t) := by
  rcases p with _ | ⟨c₁, _ | ⟨c₂, _ | ⟨c₃, p⟩⟩⟩
  · simp [leadingSlashes, hd]
  · by_cases h : c₁ = char '/' <;> simp [leadingSlashes, h, hd]
  · by_cases h : c₁ = char '/' <;> by_cases h' : c₂ = char '/' <;> simp [leadingSlashes, h, h']
  · by_cases h : c₁ = char '/' <;> by_cases h' : c₂ = char '/' <;> by_cases h'' : c₃ = char '/' <;>
      simp [leadingSlashes, h, h', h'']

lemma IsName.stepTo (hc : IsName c) (l : Location) : Disk.stepTo l c = c :: l := by
  rw [Disk.stepTo, if_neg hc.ne_dot, if_neg hc.ne_dots]

end Path

namespace Disk

/-! ### Walks that part -/

variable {m t : Text} {base l l' l₁ l₁' l₂ l₂' : Location}

/-- One place is as far below an entry of the directory as the other one is below another
entry; or both are the same. -/
def Fork (m t : Text) (base l l' : Location) : Prop :=
  (∃ y, l = y ++ m :: base ∧ l' = y ++ t :: base) ∨ l = l'

/-- **Places that have parted may meet again, but not part otherwise**, as the same steps lead
on from both. -/
lemma fork_lexical (m t : Text) (base x : Location) (cs : List Text) :
    Fork m t base (lexical (x ++ m :: base) cs) (lexical (x ++ t :: base) cs) := by
  induction cs generalizing x with
  | nil => exact .inl ⟨x, rfl, rfl⟩
  | cons c cs ih =>
      rw [lexical_cons, lexical_cons, stepTo, stepTo]
      split_ifs
      · exact ih x
      · cases x with
        | nil => exact .inr rfl
        | cons d x => exact ih x
      · exact ih (c :: x)

namespace Fork

lemma eq_or_of_eq (h₁ : Fork m t base l₁ l₁') (h₂ : Fork m t base l₂ l₂') (h : l₁' = l₂') :
    l₁ = l₂ ∨ l₂ = l₁' ∨ l₁ = l₂' := by
  rcases h₁ with ⟨y, rfl, rfl⟩ | rfl <;> rcases h₂ with ⟨z, rfl, rfl⟩ | rfl
  · obtain rfl := List.append_left_injective (t :: base) h
    exact .inl rfl
  · exact .inr (.inl h.symm)
  · exact .inr (.inr h)
  · exact .inl h

lemma eq_or_eq (h₁ : Fork m t base l₁ l₁') (h₂ : Fork m t base l₂ l₂') (hne : m ≠ t)
    (h : l₂ = l₁') : l₁ = l₂ ∨ l₁' = l₂' := by
  rcases h₂ with ⟨z, rfl, rfl⟩ | rfl
  · rcases h₁ with ⟨y, rfl, rfl⟩ | rfl
    · have hm : m :: base <:+ z ++ m :: base := List.suffix_append z _
      have ht : t :: base <:+ z ++ m :: base := h ▸ List.suffix_append y _
      exact absurd (eq_of_suffix hm ht) hne
    · exact .inl h.symm
  · exact .inr h.symm

/-- A place below the one entry is not where the other place is. -/
lemma eq_of_suffix (h : Fork m t base l l') (hne : m ≠ t) (hl : m :: base <:+ l') : l = l' := by
  rcases h with ⟨y, rfl, rfl⟩ | rfl
  · exact absurd (Disk.eq_of_suffix hl (List.suffix_append y _)) hne
  · rfl

end Fork

end Disk

namespace Layout.Address

open Disk (placeOf staysIn lexical)

variable {a b : Address} {here : Location}

/-! ### Sources and their tests -/

/-- An address that the path of a source can be cut back to, up to the first `main` and up to
the name of the file. -/
structure Proper (a : Address) : Prop where
  root_ne_nil : a.root ≠ []
  root_main : ¬"main".toText <:+: a.root
  root_src : ¬"/src".toText <:+: a.root
  dirs_closed : a.dirs = [] ∨ a.dirs.getLast? = some (char '/')
  isName : Path.IsName a.name
  name_new : ¬a.name <:+: a.dir "main".toText
  name_last : a.name.getLast? ≠ some (char '.')

/-- The path of the test of the file. -/
def testPath (a : Address) : Text := a.test.path "test".toText

lemma test_name_eq (hname : Path.IsName a.name) : a.test.name = Path.testNameOf a.name := by
  have hself := hname.name_eq
  simp [test, Path.stem, Path.suffix, Path.testNameOf, hself]

lemma isName_test (a : Address) : Path.IsName a.test.name := isName_testFileName a.name

lemma Proper.testPlace_path (ha : a.Proper) :
    testPlace (a.path "main".toText) = .ok (a.dir "test".toText, a.test.name) :=
  Address.testPlace_path ha.root_main ha.dirs_closed ha.isName ha.name_new

/-- The directory and the name of a test are put together to its path. -/
lemma joinTo_dir (hdirs : a.dirs = [] ∨ a.dirs.getLast? = some (char '/')) :
    Path.joinTo (a.dir "test".toText) a.test.name = a.testPath := by
  have hhead : a.test.name.head? ≠ some (char '/') := fun h =>
    a.isName_test.notMem (List.mem_of_head? h)
  obtain ⟨up, hup⟩ := exists_dir_eq hdirs "test".toText
  have hlast : (a.dir "test".toText).getLast? = some (char '/') := by rw [hup, List.getLast?_concat]
  rw [Path.joinTo, if_neg hhead, if_pos (.inr hlast)]
  rfl

/-- The place of the test of a source, put together, is the path of the test. -/
lemma Proper.joinTo_eq (ha : a.Proper) {p : Text × Text}
    (hp : testPlace (a.path "main".toText) = .ok p) : Path.joinTo p.1 p.2 = a.testPath := by
  rw [ha.testPlace_path] at hp
  rw [← Except.ok.inj hp]
  exact joinTo_dir ha.dirs_closed

/-! ### Spellings -/

lemma notMem_languageName (l : Language) : char '/' ∉ l.name := by cases l <;> decide

lemma languageName_inj {l l' : Language} (h : l.name = l'.name) : l = l' := by
  cases l <;> cases l' <;> first | rfl | exact absurd h (by decide)

/-- The name of a file is what its path has after the last slash. -/
lemma eq_of_path_eq (hroot : a.root = b.root) {set : Text}
    (hdirs : a.dirs = [] ∨ a.dirs.getLast? = some (char '/'))
    (hdirs' : b.dirs = [] ∨ b.dirs.getLast? = some (char '/')) (hname : char '/' ∉ a.name)
    (hname' : char '/' ∉ b.name) (h : a.path set = b.path set) :
    a.language = b.language ∧ a.dirs = b.dirs ∧ a.name = b.name := by
  obtain ⟨up, hup⟩ := exists_dir_eq hdirs set
  obtain ⟨up', hup'⟩ := exists_dir_eq hdirs' set
  have hlast : a.dir set = b.dir set ∧ a.name = b.name := by
    have hcut := congrArg (Text.cutLast (char '/')) h
    rw [path, path, hup, hup', List.append_assoc, List.append_assoc, List.singleton_append,
      List.singleton_append, Text.cutLast_append_cons _ hname, Text.cutLast_append_cons _ hname',
      Prod.mk.injEq] at hcut
    rw [hup, hup', hcut.1]
    exact ⟨rfl, hcut.2⟩
  have hrest : a.language.name ++ char '/' :: a.dirs = b.language.name ++ char '/' :: b.dirs := by
    simpa [dir, setRoot, hroot] using hlast.1
  have hfields := congrArg (Text.fields (char '/')) hrest
  rw [Text.fields_append_cons, Text.fields_append_cons, Text.fields_of_notMem
    (notMem_languageName _), Text.fields_of_notMem (notMem_languageName _)] at hfields
  have hlanguage := languageName_inj (List.cons.inj hfields).1
  rw [hlanguage] at hrest
  exact ⟨hlanguage, by simpa using hrest, hlast.2⟩

/-- **The spelling of a test determines the address of its source.** -/
theorem testPath_inj (ha : a.Proper) (hb : b.Proper) (hroot : a.root = b.root)
    (h : a.testPath = b.testPath) : a = b := by
  have htest : a.test.root = b.test.root := hroot
  obtain ⟨hlanguage, hdirs, hname⟩ := eq_of_path_eq htest ha.dirs_closed hb.dirs_closed
    a.isName_test.notMem b.isName_test.notMem h
  rw [test_name_eq ha.isName, test_name_eq hb.isName] at hname
  have hname' := Path.testNameOf_inj ha.isName.ne_nil hb.isName.ne_nil ha.name_last hb.name_last
    hname
  cases a
  cases b
  simp_all [test]

/-! ### Parts -/

/-- The source sets. -/
def sets : List Text := ["main".toText, "test".toText]

variable {set : Text}

lemma parts_dir (hset : set ∈ sets) :
    Path.partsOf (a.dir set) = Path.partsOf a.root ++
      "src".toText :: set :: a.language.name :: Path.partsOf a.dirs := by
  have hsplit : a.dir set = a.root ++ char '/' :: ("src".toText ++ char '/' :: (set ++ char '/' ::
      (a.language.name ++ char '/' :: a.dirs))) := by simp [dir, setRoot]
  have hsrc : Path.partsOf "src".toText = ["src".toText] := by decide
  have hsets : ∀ s ∈ sets, Path.partsOf s = [s] := by decide
  have hlanguage : Path.partsOf a.language.name = [a.language.name] := by
    cases a.language <;> decide
  rw [hsplit, Path.partsOf_append_slash, Path.partsOf_append_slash, Path.partsOf_append_slash,
    Path.partsOf_append_slash, hsrc, hsets set hset, hlanguage]
  rfl

lemma parts_path (set : Text) (hname : Path.IsName a.name)
    (hdirs : a.dirs = [] ∨ a.dirs.getLast? = some (char '/')) :
    Path.partsOf (a.path set) = Path.partsOf (a.dir set) ++ [a.name] := by
  obtain ⟨up, hup⟩ := exists_dir_eq hdirs set
  have hlast : (a.dir set).getLast? = some (char '/') := by rw [hup, List.getLast?_concat]
  have hself : Path.partsOf a.name = [a.name] := by
    simp [Path.partsOf, Text.fields_of_notMem hname.notMem, hname.ne_nil, hname.ne_dot]
  rw [path, Path.partsOf_append_of_seam (.inr (.inr hlast)), hself]

/-- **Up to repeated slashes and single dots, the spelling of a test determines that of its
source.** -/
theorem ofText_testPath_inj (ha : a.Proper) (hb : b.Proper) (hroot : a.root = b.root)
    (h : Path.ofText a.testPath = Path.ofText b.testPath) :
    Path.ofText (a.path "main".toText) = Path.ofText (b.path "main".toText) := by
  have hparts : Path.partsOf a.testPath = Path.partsOf b.testPath := congrArg Path.parts h
  rw [testPath, testPath, parts_path _ a.isName_test ha.dirs_closed,
    parts_path _ b.isName_test hb.dirs_closed] at hparts
  obtain ⟨hdir, hname⟩ := List.append_inj' hparts rfl
  have hname' : a.name = b.name := by
    rw [List.singleton_inj, test_name_eq ha.isName, test_name_eq hb.isName] at hname
    exact Path.testNameOf_inj ha.isName.ne_nil hb.isName.ne_nil ha.name_last hb.name_last hname
  have hdir' : a.language.name = b.language.name ∧
      Path.partsOf a.dirs = Path.partsOf b.dirs := by
    rw [parts_dir (by decide), parts_dir (by decide)] at hdir
    simpa [test, hroot] using hdir
  have hslashes : Path.leadingSlashes (a.path "main".toText) =
      Path.leadingSlashes (b.path "main".toText) := by
    rw [a.path_eq_src, b.path_eq_src, hroot]
    exact Path.leadingSlashes_append (by decide) b.root _ _
  rw [Path.ofText, Path.ofText, hslashes, parts_path _ ha.isName ha.dirs_closed,
    parts_path _ hb.isName hb.dirs_closed, parts_dir (by decide), parts_dir (by decide), hroot,
    hdir'.1, hdir'.2, hname']

/-! ### Places -/

/-- The directory that the source sets of the module are in. -/
def base (a : Address) (here : Location) : Location := "src".toText :: placeOf here a.root

lemma placeOf_dir (hset : set ∈ sets) (hroot : a.root ≠ []) (here : Location) :
    placeOf here (a.dir set) =
      lexical (a.language.name :: set :: a.base here) (Path.partsOf a.dirs) := by
  have hsrc : Path.IsName "src".toText := by decide
  have hsets : ∀ s ∈ sets, Path.IsName s := by decide
  have hlanguage : Path.IsName a.language.name := by cases a.language <;> decide
  have horigin : Disk.origin here (a.dir set) = Disk.origin here a.root :=
    Disk.origin_append here hroot _
  rw [placeOf, ← Disk.lexical_partsOf, parts_dir hset, horigin, Disk.lexical_append,
    Disk.lexical_partsOf, Disk.lexical_cons, hsrc.stepTo, Disk.lexical_cons,
    (hsets set hset).stepTo, Disk.lexical_cons, hlanguage.stepTo, base, placeOf]

/-- A file stands under its name in its directory. -/
lemma placeOf_path (set : Text) (hname : Path.IsName a.name)
    (hdirs : a.dirs = [] ∨ a.dirs.getLast? = some (char '/')) (here : Location) :
    placeOf here (a.path set) = a.name :: placeOf here (a.dir set) := by
  have hdir : a.dir set ≠ [] := by simp [dir]
  have horigin : Disk.origin here (a.path set) = Disk.origin here (a.dir set) :=
    Disk.origin_append here hdir _
  rw [placeOf, ← Disk.lexical_partsOf, parts_path set hname hdirs,
    Disk.lexical_concat hname.ne_dot hname.ne_dots, Disk.lexical_partsOf, horigin, placeOf]

namespace Proper

lemma placeOf_source (ha : a.Proper) (here : Location) :
    placeOf here (a.path "main".toText) = a.name :: placeOf here (a.dir "main".toText) :=
  placeOf_path _ ha.isName ha.dirs_closed here

lemma placeOf_test (ha : a.Proper) (here : Location) :
    placeOf here a.testPath = Path.testNameOf a.name :: placeOf here (a.dir "test".toText) := by
  rw [← test_name_eq ha.isName]
  exact placeOf_path _ a.isName_test ha.dirs_closed here

/-- The directory of a source and that of its test are as far below their source sets, unless
two dots lead out of these. -/
lemma fork (ha : a.Proper) (here : Location) :
    Disk.Fork "main".toText "test".toText (a.base here) (placeOf here (a.dir "main".toText))
      (placeOf here (a.dir "test".toText)) := by
  rw [placeOf_dir (by decide) ha.root_ne_nil, placeOf_dir (by decide) ha.root_ne_nil]
  exact Disk.fork_lexical _ _ _ [a.language.name] _

end Proper

/-- The second source stands in the directory of the test of the first one, under the name of
the first one. -/
def StandsBy (here : Location) (a b : Address) : Prop :=
  placeOf here (b.path "main".toText) = a.name :: placeOf here (a.dir "test".toText)

/-- **Which sources have tests at one place**: exactly those of which one stands where the other
would stand beside its own test. -/
theorem placeOf_testPath_eq_iff (ha : a.Proper) (hb : b.Proper) (hroot : a.root = b.root)
    (hne : placeOf here (a.path "main".toText) ≠ placeOf here (b.path "main".toText)) :
    placeOf here a.testPath = placeOf here b.testPath ↔
      StandsBy here a b ∨ StandsBy here b a := by
  have hfork := ha.fork here
  have hfork' : Disk.Fork "main".toText "test".toText (a.base here)
      (placeOf here (b.dir "main".toText)) (placeOf here (b.dir "test".toText)) := by
    rw [base, hroot]
    exact hb.fork here
  have hsets : "main".toText ≠ "test".toText := by decide
  rw [ha.placeOf_source, hb.placeOf_source] at hne
  rw [ha.placeOf_test, hb.placeOf_test, StandsBy, StandsBy, ha.placeOf_source, hb.placeOf_source]
  constructor
  · intro h
    obtain ⟨htest, hdir⟩ := List.cons.inj h
    have hname := Path.testNameOf_inj ha.isName.ne_nil hb.isName.ne_nil ha.name_last hb.name_last
      htest
    rcases hfork.eq_or_of_eq hfork' hdir with heq | heq | heq
    · exact absurd (by rw [hname, heq]) hne
    · exact .inl (by rw [hname, heq])
    · exact .inr (by rw [hname, heq])
  · rintro (h | h)
    · obtain ⟨hname, hdir⟩ := List.cons.inj h
      rcases hfork.eq_or_eq hfork' hsets hdir with heq | heq
      · exact absurd (by rw [hname, heq]) hne
      · rw [hname, heq]
    · obtain ⟨hname, hdir⟩ := List.cons.inj h
      rcases hfork'.eq_or_eq hfork hsets hdir with heq | heq
      · exact absurd (by rw [hname, heq]) hne
      · rw [hname, heq]

/-- **A source that stays in its source set stands by no test** of another source. -/
theorem not_standsBy_of_staysIn (ha : a.Proper) (hb : b.Proper) (hroot : a.root = b.root)
    (hne : placeOf here (a.path "main".toText) ≠ placeOf here (b.path "main".toText))
    (hstays : staysIn 0 (Path.partsOf b.dirs)) : ¬StandsBy here a b := by
  intro h
  rw [ha.placeOf_source, hb.placeOf_source] at hne
  rw [StandsBy, hb.placeOf_source] at h
  obtain ⟨hname, hdir⟩ := List.cons.inj h
  have hbelow : "main".toText :: a.base here <:+ placeOf here (b.dir "main".toText) := by
    rw [placeOf_dir (by decide) hb.root_ne_nil, base, hroot]
    exact (List.suffix_cons _ _).trans (Disk.suffix_of_staysIn hstays _)
  have hsame := (ha.fork here).eq_of_suffix (by decide) (hdir ▸ hbelow)
  exact hne (by rw [hname, hdir, hsame])

end Layout.Address

end TestScaffold
