import TestScaffold.Proofs.Generator.Effects
import TestScaffold.Proofs.Layout.Separate

/-!
Runs on different sources of a module.

* `get?_of_generate`: a run leaves what there is as it is, except at the place of its own test.
* `generate_separate`: **the paths of tests of different sources are different**, and where
  no source stands by the test of another, **a run on one source does not touch the test of
  another.**
* The proviso cannot be left out: `generate_over` are two runs of which the second one writes
  over the test that the first one has made.
-/

namespace TestScaffold

namespace Generator

open TestScaffold.Action
open Disk (placeOf staysIn)
open Layout (Address testPlace)
open Layout.Address (Proper StandsBy)

variable {settings : Settings} {dryRun : Bool} {annotationName path : Text} {s s' : Session}
  {r : Except Failure Generated} {l : Location} {n : Node}

/-- **A run leaves what there is**, except at the place of its test. -/
lemma get?_of_generate (hs : s.IsPlain)
    (hrun : runOn (generate settings dryRun annotationName path) s = (r, s'))
    (hlog : ¬s.journal.WritesTo l) (hn : s.disk.get? l = some n)
    (hne : ∀ p, testPlace path = .ok p → l ≠ placeOf s.here (Path.joinTo p.1 p.2)) :
    s'.disk.get? l = some n := by
  rcases generate_cases hs hrun with ⟨htold, -, -⟩ | ⟨-, t, s₁, r', hdraft, hends, -⟩
  · exact (htold.untouched l hlog).trans hn
  have htold := (draft_onlyTells settings annotationName path).onlyTold hdraft
  have hl := hne _ (draft_eq_ok hdraft).1
  rw [← htold.here] at hl
  exact (hends.keeps.after htold).get?_of_some hl hlog hn

/-- What a run that succeeds has put at the place of its test. -/
lemma get?_testPlace_of_generate (hs : s.IsPlain) {g : Generated}
    (hrun : runOn (generate settings false annotationName path) s = (.ok g, s')) {p : Text × Text}
    (hp : testPlace path = .ok p)
    (hlog : ¬s.journal.WritesTo (placeOf s.here (Path.joinTo p.1 p.2))) :
    s'.disk.get? (placeOf s.here (Path.joinTo p.1 p.2)) = some (.file (Utf8.encode g.content)) := by
  rcases generate_cases hs hrun with ⟨-, -, hdry⟩ | ⟨-, t, s₁, r', hdraft, hends, hg⟩
  · exact absurd (hdry g rfl) (by simp)
  cases hends with
  | refused => cases hg
  | broken => cases hg
  | done hputs =>
      obtain rfl := Except.ok.inj hg
      obtain rfl : (t.dir, t.name) = p := Except.ok.inj ((draft_eq_ok hdraft).1.symm.trans hp)
      have htold := (draft_onlyTells settings annotationName path).onlyTold hdraft
      rw [← htold.here, ← hputs.place_eq] at hlog ⊢
      exact hputs.get?_place (by rwa [htold.writesTo_iff])

/-- A run writes its records where they were written before. -/
lemma writesTo_of_generate (hs : s.IsPlain)
    (hrun : runOn (generate settings dryRun annotationName path) s = (r, s')) :
    s'.journal.WritesTo l ↔ s.journal.WritesTo l := by
  rcases generate_cases hs hrun with ⟨htold, -, -⟩ | ⟨-, t, s₁, r', hdraft, hends, -⟩
  · exact htold.writesTo_iff
  · exact hends.keeps.writesTo_iff.trans
      ((draft_onlyTells settings annotationName path).onlyTold hdraft).writesTo_iff

/-- **Runs on different sources of a module.** The paths of their tests are different as texts,
and different up to repeated slashes and single dots where the sources are. On a tree without
links, the tests of sources at different places are at different places, too, and a run on one
source leaves what there is at the test of the other, unless one of the sources stands in the
directory of the test of the other under the other's name; two dots lead it out of its source
set then, and a run that succeeds writes over the test. -/
theorem generate_separate (hs : s.IsPlain) {a b : Address} (ha : a.Proper) (hb : b.Proper)
    (hroot : a.root = b.root) :
    ((testPlace (a.path "main".toText)).map (fun p => Path.joinTo p.1 p.2) = .ok a.testPath ∧
      (testPlace (b.path "main".toText)).map (fun p => Path.joinTo p.1 p.2) = .ok b.testPath) ∧
    (a.path "main".toText ≠ b.path "main".toText → a.testPath ≠ b.testPath) ∧
    (Path.ofText (a.path "main".toText) ≠ Path.ofText (b.path "main".toText) →
      Path.ofText a.testPath ≠ Path.ofText b.testPath) ∧
    (placeOf s.here (a.path "main".toText) ≠ placeOf s.here (b.path "main".toText) →
      (StandsBy s.here a b → ¬staysIn 0 (Path.partsOf b.dirs)) ∧
      (StandsBy s.here b a → ¬staysIn 0 (Path.partsOf a.dirs)) ∧
      (placeOf s.here a.testPath = placeOf s.here b.testPath ↔
        StandsBy s.here a b ∨ StandsBy s.here b a) ∧
      ∀ settings dryRun annotationName r s',
        runOn (generate settings dryRun annotationName (b.path "main".toText)) s = (r, s') →
        ¬s.journal.WritesTo (placeOf s.here a.testPath) →
        (¬(StandsBy s.here a b ∨ StandsBy s.here b a) →
          ∀ n, s.disk.get? (placeOf s.here a.testPath) = some n →
            s'.disk.get? (placeOf s.here a.testPath) = some n) ∧
        (StandsBy s.here a b ∨ StandsBy s.here b a → ∀ g, r = .ok g → dryRun = false →
          s'.disk.get? (placeOf s.here a.testPath) = some (.file (Utf8.encode g.content)))) := by
  have hwhere : ∀ c : Address, c.Proper →
      (testPlace (c.path "main".toText)).map (fun p => Path.joinTo p.1 p.2) = .ok c.testPath := by
    intro c hc
    have hjoin := hc.joinTo_eq hc.testPlace_path
    rw [hc.testPlace_path, Except.map, hjoin]
  refine ⟨⟨hwhere a ha, hwhere b hb⟩, fun hne h => hne (by rw [Address.testPath_inj ha hb hroot h]),
    fun hne h => hne (Address.ofText_testPath_inj ha hb hroot h), fun hne => ⟨fun hby hstays => ?_,
      fun hby hstays => ?_, Address.placeOf_testPath_eq_iff ha hb hroot hne, ?_⟩⟩
  · exact Address.not_standsBy_of_staysIn ha hb hroot hne hstays hby
  · exact Address.not_standsBy_of_staysIn hb ha hroot.symm (Ne.symm hne) hstays hby
  have hsame := Address.placeOf_testPath_eq_iff ha hb hroot hne
  refine fun settings dryRun annotationName r s' hrun hlog =>
    ⟨fun hnone n hn => ?_, fun hby g hg hdry => ?_⟩
  · refine get?_of_generate hs hrun hlog hn fun p hp heq => hnone (hsame.mp ?_)
    rw [heq, hb.joinTo_eq hp]
  · subst hg hdry
    have hput := get?_testPlace_of_generate hs hrun hb.testPlace_path
    rw [hb.joinTo_eq hb.testPlace_path, ← hsame.mpr hby] at hput
    exact hput hlog

/-- A session with two sources of a module, and a third one in the directory of the tests. -/
def sources : Session :=
  let module : Location := ["m".toText]
  let main : Location := ["kotlin".toText, "main".toText, "src".toText, "m".toText]
  let test : Location := ["kotlin".toText, "test".toText, "src".toText, "m".toText]
  let declared (name : Text) : Node :=
    .file (Utf8.encode ("@Gen fun ".toText ++ name ++ "(n: Int): Int = n\n".toText))
  { oneModule with
    disk := ⟨[(module, .dir),
      ("build.gradle".toText :: module, .file (Utf8.encode "testImplementation".toText)),
      (main.drop 2, .dir), (main.drop 1, .dir), (main, .dir), (test.drop 1, .dir), (test, .dir),
      ("A.kt".toText :: main, declared "double".toText),
      ("B.kt".toText :: main, declared "triple".toText),
      ("A.kt".toText :: test, declared "half".toText)]⟩
    here := [] }

lemma sources_isPlain : sources.IsPlain :=
  ⟨Disk.linkFree_of_nodes (by simp [sources]), Disk.isTree_of_nodes (by decide +kernel), rfl⟩

/-- The address of a source of this module. -/
def sourceOf (dirs name : Text) : Address := ⟨"m".toText, .kotlin, dirs, name⟩

/-- With the test of the one source made, a run on the other one leaves it as it is. -/
theorem generate_separate_sources :
    let a := sourceOf [] "A.kt".toText
    let b := sourceOf [] "B.kt".toText
    a.Proper ∧ b.Proper ∧ a.root = b.root ∧ ∃ r s r' s',
      runOn (generate .default false "Gen".toText (a.path "main".toText)) sources = (r, s) ∧
      runOn (generate .default false "Gen".toText (b.path "main".toText)) s = (r', s') ∧
      s.IsPlain ∧ (s.disk.get? (placeOf [] a.testPath)).map Node.shape = some (.file []) ∧
      s'.disk.get? (placeOf [] a.testPath) = s.disk.get? (placeOf [] a.testPath) := by
  intro a b
  have ha : a.Proper :=
    ⟨by decide, by decide, by decide, by decide, by decide, by decide, by decide⟩
  have hb : b.Proper :=
    ⟨by decide, by decide, by decide, by decide, by decide, by decide, by decide⟩
  let first := runOn (generate .default false "Gen".toText (a.path "main".toText)) sources
  have hthere : (first.2.disk.get? (placeOf [] a.testPath)).map Node.shape = some (.file []) := by
    decide +kernel
  have hhere : first.2.here = [] := by decide +kernel
  rcases hfirst : runOn (generate .default false "Gen".toText (a.path "main".toText)) sources with
    ⟨r, s⟩
  rcases hsecond : runOn (generate .default false "Gen".toText (b.path "main".toText)) s with
    ⟨r', s'⟩
  have hs : s.IsPlain := isPlain_of_generate sources_isPlain hfirst
  simp only [first, hfirst] at hthere hhere
  -- the sources have different names, and so stand at different places
  have hplaces : placeOf s.here (a.path "main".toText) ≠ placeOf s.here (b.path "main".toText) := by
    rw [hhere]
    decide
  have hlog : ¬s.journal.WritesTo (placeOf s.here a.testPath) := by
    rw [writesTo_of_generate sources_isPlain hfirst]
    exact Journal.not_writesTo_start rfl loggers _
  obtain ⟨-, -, -, hapart⟩ := generate_separate hs ha hb rfl
  obtain ⟨hby, hby', -, hrun⟩ := hapart hplaces
  refine ⟨ha, hb, rfl, r, s, r', s', rfl, hsecond, hs, hthere, ?_⟩
  obtain ⟨n, hn, -⟩ := Option.map_eq_some_iff.mp hthere
  have hkept := (hrun _ _ _ _ _ hsecond hlog).1
  rw [hhere] at hkept
  rw [hn]
  refine hkept ?_ n hn
  rintro (h | h)
  · exact hby (hhere ▸ h) (by decide)
  · exact hby' (hhere ▸ h) (by decide)

/-- **Where a source stands by the test of another, a run on it writes over the test.** Here
the one path leads by two dots out of the sources and into the tests. -/
theorem generate_over :
    let a := sourceOf [] "A.kt".toText
    let b := sourceOf "../../test/kotlin/".toText "A.kt".toText
    let run := runOn (generate .default false "Gen".toText (a.path "main".toText)) sources
    let run' := runOn (generate .default false "Gen".toText (b.path "main".toText)) run.2
    let test := placeOf [] "m/src/test/kotlin/ATest.kt".toText
    a.Proper ∧ b.Proper ∧ a.root = b.root ∧
      placeOf [] (a.path "main".toText) ≠ placeOf [] (b.path "main".toText) ∧
      a.testPath ≠ b.testPath ∧
      run.1.toOption.map (fun g => Node.file (Utf8.encode g.content)) = run.2.disk.get? test ∧
      run'.1.toOption.map (fun g => Node.file (Utf8.encode g.content)) =
        run'.2.disk.get? test ∧
      run.1.isOk ∧ run'.1.isOk ∧ run'.2.disk.get? test ≠ run.2.disk.get? test := by
  intro a b run run' test
  refine ⟨⟨by decide, by decide, by decide, by decide, by decide, by decide, by decide⟩,
    ⟨by decide, by decide, by decide, by decide, by decide, by decide, by decide⟩, rfl, ?_⟩
  decide +kernel

end Generator

end TestScaffold
