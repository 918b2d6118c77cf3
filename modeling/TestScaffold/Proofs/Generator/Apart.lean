import TestScaffold.Proofs.Generator.Effects
import TestScaffold.Proofs.Layout.Apart

/-!
Where a run puts the test, beside its source.

`generate_apart`: **when the test of a run that succeeds is kept apart from the sources**,
and when it is not. A source root of the settings need not have a `main` in it, and then
it has the tests as well (`generate_beside_commonMain`).
-/

namespace TestScaffold

namespace Generator

open TestScaffold.Action
open Disk (placeOf staysIn)
open Layout (ReadAt firstMain)

variable {settings : Settings} {annotationName path dir name : Text} {s s' : Session}
  {g : Generated} {place : Location}

/-- A test stands under its name in the directory that it is placed in. -/
lemma placeOf_joinTo (here : Location) (hplace : Layout.testPlace path = .ok (dir, name)) :
    placeOf here (Path.joinTo dir name) = name :: placeOf here dir := by
  obtain ⟨hdir, rfl, -⟩ := Layout.testPlace_eq_ok hplace
  have hname := Layout.isName_testFileName path
  obtain ⟨q, hjoin, -, -⟩ := Path.joinTo_eq_append hdir hname
  rw [placeOf, Disk.steps_joinTo hdir hname.ne_nil hname.notMem,
    Disk.lexical_concat hname.ne_dot hname.ne_dots, hjoin, Disk.origin_append here hdir, placeOf]

/-- The package of a run is read after a source root, and the test is put in its place. -/
lemma exists_readAt_of_generate (hs : s.IsPlain)
    (hrun : runOn (generate settings false annotationName path) s = (.ok g, s')) :
    ∃ marker before rest dir name, ReadAt settings.sourceRoots path marker before rest ∧
      marker ≠ [] ∧ HasWritten path g s s' dir name (name :: placeOf s.here dir) := by
  rcases generate_cases hs hrun with ⟨-, -, hdry⟩ | ⟨-, t, s₁, r', hdraft, hends, hg⟩
  · exact absurd (hdry g rfl) (by simp)
  cases hends with
  | refused => cases hg
  | broken => cases hg
  | @done place _ hputs hchars _ =>
      obtain rfl := Except.ok.inj hg
      obtain ⟨hplace, -, -, ⟨package, hpackage⟩, -⟩ := draft_eq_ok hdraft
      obtain ⟨marker, before, rest, hread, hne, -⟩ := Layout.packageName_eq_ok_iff.mp hpackage
      have hwritten := hasWritten_of_puts hs hdraft hputs hchars
      have hhere := ((draft_onlyTells settings annotationName path).onlyTold hdraft).here
      have hwhere : place = t.name :: placeOf s.here t.dir := by
        rw [hputs.place_eq, hhere, placeOf_joinTo s.here hplace]
      exact ⟨marker, before, rest, t.dir, t.name, hread, hne, hwhere ▸ hwritten⟩

/-- The source of a run stands under its name at the place that its path spells. -/
lemma placeOf_source (hs : s.IsPlain) {l : Location} {bs : List UInt8}
    (h : s.LeadsTo path l (.file bs)) :
    l = placeOf s.here path ∧ Path.IsName (Path.ofText path).name := by
  obtain ⟨up, rfl⟩ := Disk.exists_name_of_resolve_found hs.linkFree hs.isTree (by simp) h
  refine ⟨Disk.eq_lexical_of_resolve_found hs.linkFree h, hs.isTree.isName _ up ?_⟩
  rw [Disk.get?_of_resolve_found h]
  simp

/-- **When the test of a run is kept apart from the sources.** Let `root` be what the path has
up to the source root that the package is read after, and its end. If there is a `main`
before the file name, the test is not in the directory of the source; and if the first one
begins in `root`, the test is nowhere below it; always provided that no two dots lead out of
the directory that this `main` is in the name of. If no `main` begins in `root`, the test is
below it, provided that no dots lead out of it; and if there is no `main` at all, the test is
in the directory of the source. -/
theorem generate_apart (hs : s.IsPlain)
    (hrun : runOn (generate settings false annotationName path) s = (.ok g, s')) :
    ∃ marker before rest dir name place source bs,
      ReadAt settings.sourceRoots path marker before rest ∧
      HasWritten path g s s' dir name place ∧ s.LeadsTo path source (.file bs) ∧
      let root := before ++ marker
      let up := Text.before (Path.ofText path).name path
      (∀ a b, firstMain path = some (a, b) → Path.keeps a.length path →
        place.tail ≠ source.tail ∧
          (a.length < root.length → Path.keeps a.length root →
            ¬placeOf s.here root <:+ place.tail)) ∧
      (root <+: up → (∀ a b, firstMain path = some (a, b) → root.length ≤ a.length) →
        ∃ more, dir = root ++ more ∧
          (more = [] ∨ more.head? = some (char '/') ∨ root.getLast? = some (char '/') →
            staysIn 0 (Path.partsOf more) → placeOf s.here root <:+ place.tail)) ∧
      (firstMain path = none → path = up ++ (Path.ofText path).name →
        place.tail = source.tail) := by
  obtain ⟨marker, before, rest, dir, name, hread, hne, hwritten⟩ :=
    exists_readAt_of_generate hs hrun
  obtain ⟨source, bs, -, hsource, -⟩ := hwritten.inputs path (.inl rfl)
  obtain ⟨rfl, hname⟩ := placeOf_source hs hsource
  have hplace := hwritten.testPlace
  have hroot : before ++ marker <+: path :=
    ⟨rest, by rw [hread.path_eq, List.append_assoc]⟩
  refine ⟨marker, before, rest, dir, name, _, _, bs, hread, hwritten, hsource, ?_, ?_, ?_⟩
  · intro a b hmain hkeeps
    exact ⟨Layout.testDir_ne_of_main s.here hplace hname hmain hkeeps,
      Layout.not_below_of_main s.here hplace hmain hkeeps hroot⟩
  · exact fun hup hafter => Layout.below_of_no_main s.here hplace (by simp [hne]) hup hafter
  · exact fun hmain hlast => Layout.testDir_eq_of_no_main s.here hplace hname hmain hlast

/-- The source of this session is below a source root with a `main`, and the test is
kept apart from it. -/
theorem generate_apart_oneModule : oneModule.IsPlain ∧
    ∃ g s' dir name place source bs,
      runOn (generate .default false "Gen".toText oneSource) oneModule = (.ok g, s') ∧
      HasWritten oneSource g oneModule s' dir name place ∧
      oneModule.LeadsTo oneSource source (.file bs) ∧ place.tail ≠ source.tail ∧
      ¬placeOf oneModule.here "../m//src/main/kotlin".toText <:+ place.tail := by
  refine ⟨oneModule_isPlain, ?_⟩
  have hok : (runOn (generate .default false "Gen".toText oneSource) oneModule).1.isOk = true := by
    decide +kernel
  rcases hrun : runOn (generate .default false "Gen".toText oneSource) oneModule with ⟨e | g, s'⟩
  · rw [hrun] at hok
    cases hok
  obtain ⟨marker, before, rest, dir, name, place, source, bs, hread, hwritten, hsource,
    happart, -⟩ := generate_apart oneModule_isPlain hrun
  have hread' : ReadAt Settings.default.sourceRoots oneSource "src/main/kotlin".toText
      "../m//".toText "/./A.kt".toText := ⟨by decide +kernel, by decide +kernel⟩
  obtain ⟨rfl, rfl, rfl⟩ := hread.unique hread'
  have hmain : firstMain oneSource = some ("../m//src/".toText, "/kotlin/./".toText) := by
    decide +kernel
  obtain ⟨hbeside, hbelow⟩ := happart _ _ hmain (by decide +kernel)
  exact ⟨g, s', dir, name, place, source, bs, rfl, hwritten, hsource, hbeside,
    hbelow (by decide +kernel) (by decide +kernel)⟩

/-- The directory of a source root without a `main` in it. -/
def commonSources : Location :=
  ["kotlin".toText, "commonMain".toText, "src".toText, "lib".toText]

/-- A session with a module that has such a source root, and settings that say so. -/
def commonMain : Session :=
  let source := "@Gen fun double(n: Int): Int = 2 * n\n".toText
  let config := "source_roots: [src/commonMain/kotlin]\n".toText
  { oneModule with
    disk := ⟨[(["c.yml".toText], .file (Utf8.encode config)),
      (commonSources.drop 3, .dir), (commonSources.drop 2, .dir), (commonSources.drop 1, .dir),
      (commonSources, .dir),
      ("build.gradle".toText :: commonSources.drop 3,
        .file (Utf8.encode "testImplementation".toText)),
      ("Foo.kt".toText :: commonSources, .file (Utf8.encode source))]⟩
    here := []
    settingsVar := some "c.yml".toText }

lemma commonMain_isPlain : commonMain.IsPlain :=
  ⟨Disk.linkFree_of_nodes (by simp [commonMain]), Disk.isTree_of_nodes (by decide +kernel), rfl⟩

/-- **A source root without a `main` in it has the tests as well**: here the test is put
beside the source. -/
theorem generate_beside_commonMain :
    let settings : Settings :=
      { Settings.default with sourceRoots := ["src/commonMain/kotlin".toText] }
    let path := "lib/src/commonMain/kotlin/Foo.kt".toText
    let test : Location := "FooTest.kt".toText :: commonSources
    let run := runOn (generate settings false "Gen".toText path) commonMain
    commonMain.IsPlain ∧ (runOn (loadSettings none) commonMain).1 = .ok settings ∧
      ReadAt settings.sourceRoots path "src/commonMain/kotlin".toText "lib/".toText
        "/Foo.kt".toText ∧
      placeOf commonMain.here path = "Foo.kt".toText :: commonSources ∧
      placeOf commonMain.here "lib/src/commonMain/kotlin".toText = commonSources ∧
      run.1.toOption.bind (·.testPath) = some (Disk.pathTo test) ∧
      commonMain.disk.get? test = none ∧
      (run.2.disk.get? test).map Node.shape = some (.file []) := by
  refine ⟨commonMain_isPlain, ?_, ⟨?_, ?_⟩, ?_⟩ <;> decide +kernel

end Generator

end TestScaffold
