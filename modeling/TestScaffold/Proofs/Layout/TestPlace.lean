import TestScaffold.Proofs.Layout.Mirror

/-!
The directory of a test, beside that of its source.

The directory of a test is meant to be that of its source with the first `main`
turned into `test`. What is turned is the text before the first occurrence of the
file name, and that may be in the middle of the directory.

* `placeIn` is the place of a test in a directory.
* `testPlace_append_name`: where the test of any path is placed.
* `testPlace_eq_placeIn_iff`: **it is placed in the directory of the source exactly
  if the file name occurs nowhere before**; else it is placed further up, or refused
  although there is a directory (`testPlace_ne_placeIn_nameAbove`).
-/

namespace TestScaffold

namespace Layout

variable {dir name up : Text}

/-- The place of the test for a file of a directory: in the same directory with the
first `main` turned into `test`. Without a directory there is none. -/
def placeIn (dir name : Text) : Except Failure (Text × Text) :=
  if dir = [] then .error (.scaffold .noTestDirectory)
  else
    .ok (Text.replaceFirst "main".toText "test".toText dir,
      (Path.ofText name).stem ++ "Test".toText ++ (Path.ofText name).suffix)

/-- The tests in two directories of different lengths are in different places. -/
lemma length_eq_of_placeIn (h : placeIn up name = placeIn dir name) : up.length = dir.length := by
  have hwords : "main".toText.length = "test".toText.length := rfl
  by_cases hup : up = [] <;> by_cases hdir : dir = []
  · rw [hup, hdir]
  · simp [placeIn, hup, hdir] at h
  · simp [placeIn, hup, hdir] at h
  · rw [placeIn, placeIn, if_neg hup, if_neg hdir] at h
    rw [← Text.length_replaceFirst hwords up, ← Text.length_replaceFirst hwords dir,
      (Prod.mk.inj (Except.ok.inj h)).1]

/-- The name of a path in a directory. -/
lemma name_append (hname : Path.IsName name) (hdir : dir = [] ∨ dir.getLast? = some (char '/')) :
    (Path.ofText (dir ++ name)).name = name := by
  rcases hdir with rfl | hdir
  · exact hname.name_eq
  · obtain ⟨up, rfl⟩ := List.getLast?_eq_some_iff.mp hdir
    rw [List.append_assoc]
    exact hname.name_append_slash up

/-- **Where the test of a path is placed**: in what stands before the first occurrence
of the file name, whatever that is a part of. -/
lemma testPlace_append_name (hname : Path.IsName name)
    (hdir : dir = [] ∨ dir.getLast? = some (char '/')) :
    testPlace (dir ++ name) = placeIn (Text.before name (dir ++ name)) name := by
  have hlast := name_append hname hdir
  have hself := hname.name_eq
  have hwords : "main".toText.length = "test".toText.length := rfl
  have hfile : testFileName (dir ++ name) =
      (Path.ofText name).stem ++ "Test".toText ++ (Path.ofText name).suffix := by
    simp only [testFileName, Path.stem, Path.suffix, hlast, hself]
  rw [testPlace, placeIn]
  simp only [hlast, hname.ne_nil, ↓reduceIte, Text.replaceFirst_eq_nil_iff hwords, hfile]

/-- **A test is placed beside its source exactly if the file name does not occur before.**
In any case it is placed in what stands before the first occurrence of the file name, and
refused if nothing does. -/
theorem testPlace_eq_placeIn_iff (hname : Path.IsName name)
    (hdir : dir = [] ∨ dir.getLast? = some (char '/')) :
    (∃ up rest, dir ++ name = up ++ (name ++ rest) ∧ ¬name <:+: up ++ name.dropLast ∧
        testPlace (dir ++ name) = placeIn up name) ∧
      (testPlace (dir ++ name) = placeIn dir name ↔ ¬name <:+: dir ++ name.dropLast) := by
  have hplace := testPlace_append_name hname hdir
  have hoccurs : Text.cut? name (dir ++ name) ≠ none := by
    rw [ne_eq, Text.cut?_eq_none_iff, not_not]
    exact (List.suffix_append dir name).isInfix
  obtain ⟨⟨up, rest⟩, hcut⟩ := Option.ne_none_iff_exists'.mp hoccurs
  obtain ⟨hpath, hfirst⟩ := (Text.cut?_eq_some_iff hname.ne_nil).mp hcut
  rw [Text.before, hcut] at hplace
  refine ⟨⟨up, rest, hpath, hfirst, hplace⟩, ?_⟩
  rw [hplace]
  constructor
  · -- both directories begin the path, so they are the same if they are of one length
    intro h
    obtain ⟨rfl, -⟩ := List.append_inj hpath (length_eq_of_placeIn h).symm
    exact hfirst
  · intro hnew
    have hcut' := Text.cut?_append hname.ne_nil hnew []
    rw [List.append_nil, hcut] at hcut'
    obtain ⟨rfl, -⟩ := Prod.mk.inj (Option.some.inj hcut')
    rfl

/-- A source in a directory whose name begins with that of the source. -/
def nameAbove : Text := "m/src/main/kotlin/A.kt.d/".toText

/-- **A file name in the name of a directory displaces the test**: it is not placed in
the directory of the source. -/
theorem testPlace_ne_placeIn_nameAbove :
    testPlace (nameAbove ++ "A.kt".toText) = .ok ("m/src/test/kotlin/".toText, "ATest.kt".toText) ∧
      placeIn nameAbove "A.kt".toText =
        .ok ("m/src/test/kotlin/A.kt.d/".toText, "ATest.kt".toText) := by
  decide +kernel

/-- It may also be refused, although there is a directory; and where the file name only
begins in the directory, it is placed as it is meant to be. -/
theorem testPlace_eq_placeIn_iff_twoNames :
    (Path.IsName "A.kt".toText ∧
      testPlace "A.kt/src/main/A.kt".toText ≠ placeIn "A.kt/src/main/".toText "A.kt".toText) ∧
    (Path.IsName ".main.kt".toText ∧
      testPlace "mainly/x.main.k/.main.kt".toText =
        .ok ("testly/x.main.k/".toText, ".mainTest.kt".toText)) := by
  have hrefused : Path.IsName "A.kt".toText := by decide
  have hplaced : Path.IsName ".main.kt".toText := by decide
  refine ⟨⟨hrefused, fun h => ?_⟩, hplaced, ?_⟩
  · have hnew : ¬"A.kt".toText <:+: "A.kt/src/main/".toText ++ "A.kt".toText.dropLast :=
      (testPlace_eq_placeIn_iff hrefused (.inr rfl)).2.mp h
    exact absurd hnew (by decide)
  · have hnew :
        ¬".main.kt".toText <:+: "mainly/x.main.k/".toText ++ ".main.kt".toText.dropLast := by
      decide
    exact ((testPlace_eq_placeIn_iff hplaced (.inr rfl)).2.mpr hnew).trans (by decide +kernel)

end Layout

end TestScaffold
