import TestScaffold.BuildFile
import TestScaffold.Proofs.Path.Parts

/-!
Where the directories of a test stand.

The directory of a test is cut from the path of its source in the middle of
whatever, and has one word in it replaced, so its parts are not those of the
path. They are when the letters of the two words count as one.

* `alike` makes these letters alike, and `map_alike_replaceFirst` says that the
  replacement is not seen then.
* `parts_testDir`: each part of the directory of a test is alike to the part of
  the path in the same place, up to the last one, which may be cut.
* `lexical_testDir_ne`: **no directory on the way to a test stands where a build
  file of the module would.** In that place the path has what follows the first
  `/src`.
-/

namespace TestScaffold.Layout

variable {path root rest dir name p b : Text}

/-! ### Letters alike -/

/-- The letters of `main` and `test` made alike. -/
def alike (c : CodePoint) : CodePoint := if c ∈ "mainest".toText then char 'x' else c

/-- What is none of these letters is only alike to itself. -/
lemma alike_eq_iff {c c' : CodePoint} (hc : c' ∉ "mainest".toText) (hx : c' ≠ char 'x') :
    alike c = c' ↔ c = c' := by
  rw [alike]
  split
  · next hmem =>
      constructor
      · exact fun h => absurd h.symm hx
      · rintro rfl
        exact absurd hmem hc
  · exact Iff.rfl

lemma map_alike_replaceFirst (s : Text) :
    (Text.replaceFirst "main".toText "test".toText s).map alike = s.map alike := by
  have hwords : "test".toText.map alike = "main".toText.map alike := by decide
  rw [Text.replaceFirst]
  split
  · next q hcut =>
      rw [Text.eq_append_of_cut? hcut]
      simp only [List.map_append, hwords]
  · rfl

lemma partsOf_map_alike (s : Text) :
    Path.partsOf (s.map alike) = (Path.partsOf s).map (List.map alike) :=
  Path.partsOf_map (fun _ => alike_eq_iff (by decide) (by decide))
    (fun _ => alike_eq_iff (by decide) (by decide)) s

/-! ### The parts of the directory of a test -/

lemma before_isPrefix (pat s : Text) : Text.before pat s <+: s := by
  rw [Text.before]
  split
  · next q hcut =>
      have heq := Text.eq_append_of_cut? hcut
      exact ⟨pat ++ q.2, by rw [heq]; simp⟩
  · exact List.prefix_rfl

/-- **The parts of the directory of a test are alike to those of the path** that
are in their places, but the last one may be cut. -/
theorem parts_testDir (hplace : testPlace path = .ok (dir, name)) {xs ys : List Text} {e : Text}
    (h : Path.partsOf dir = xs ++ e :: ys) :
    ∃ xs' e' zs, Path.partsOf path = xs' ++ e' :: zs ∧ xs'.length = xs.length ∧
      e.map alike <+: e'.map alike ∧ (ys ≠ [] → e'.map alike = e.map alike) := by
  obtain ⟨-, -, hdir⟩ := testPlace_eq_ok hplace
  set up := Text.before (Path.ofText path).name path with hup
  have halike : (Path.partsOf dir).map (List.map alike) =
      (Path.partsOf up).map (List.map alike) := by
    rw [← partsOf_map_alike, ← partsOf_map_alike, hdir, map_alike_replaceFirst]
  rw [h, List.map_append, List.map_cons, eq_comm, List.map_eq_append_iff] at halike
  obtain ⟨xs', rest, hparts, hxs, hrest⟩ := halike
  obtain ⟨a, as, rfl, ha, has⟩ := List.map_eq_cons_iff.mp hrest
  obtain ⟨e', zs, hpath, hcut, hwhole⟩ :=
    Path.partsOf_of_isPrefix (before_isPrefix _ _) (hup ▸ hparts)
  refine ⟨xs', e', zs, hpath, by simpa using congrArg List.length hxs, ?_, fun hys => ?_⟩
  · rw [← ha]
    exact hcut.map alike
  · have hne : as ≠ [] := by
      rintro rfl
      exact hys (by simpa using has.symm)
    rw [hwhole hne, ha]

/-- Where a path has no two dots, those of the directory of a test are at most
its last part. -/
lemma dots_notMem_testDir (hpath : [char '.', char '.'] ∉ Disk.steps path)
    (hplace : testPlace path = .ok (dir, name)) :
    [char '.', char '.'] ∉ (Path.partsOf dir).dropLast := by
  intro hmem
  obtain ⟨xs, ys, hsplit⟩ := List.append_of_mem hmem
  have hne : Path.partsOf dir ≠ [] := by
    rintro h
    simp [h] at hmem
  have hparts :
      Path.partsOf dir =
        xs ++ [char '.', char '.'] :: (ys ++ [(Path.partsOf dir).getLast hne]) := by
    conv_lhs => rw [← List.dropLast_append_getLast hne, hsplit]
    simp
  obtain ⟨xs', e', zs, hpath', -, -, hwhole⟩ := parts_testDir hplace hparts
  -- the letters of a replacement do not count here, and no dot is one
  have halike : e'.map alike = [char '.', char '.'] := (hwhole (by simp)).trans (by decide)
  obtain rfl : e' = [char '.', char '.'] := by
    obtain ⟨c, t, rfl, hc, ht⟩ := List.map_eq_cons_iff.mp halike
    obtain ⟨c', t', rfl, hc', ht'⟩ := List.map_eq_cons_iff.mp ht
    obtain rfl := (alike_eq_iff (by decide) (by decide)).mp hc
    obtain rfl := (alike_eq_iff (by decide) (by decide)).mp hc'
    simpa using ht'
  refine hpath ?_
  have hin : [char '.', char '.'] ∈ Path.partsOf path := by simp [hpath']
  rw [Path.partsOf_eq_filter] at hin
  exact (List.mem_filter.mp hin).1

/-! ### Build files -/

/-- The directory of a test has nothing in the place of a build file. -/
lemma not_prefix_testDir (hpath : path = root ++ char '/' :: ("src".toText ++ rest))
    (hplace : testPlace path = .ok (dir, name)) (hb : b ∈ BuildFile.names) :
    ¬Path.partsOf root ++ [b] <+: Path.partsOf dir := by
  rintro ⟨ys, hparts⟩
  have hparts' : Path.partsOf dir = Path.partsOf root ++ b :: ys := by simp [← hparts]
  obtain ⟨xs, e, zs, hpath', hlen, hcut, -⟩ := parts_testDir hplace hparts'
  obtain ⟨f, fs, hsrc⟩ := Path.partsOf_append_of_notMem (s := "src".toText) (by decide) (by decide)
    (by decide) rest
  rw [hpath, Path.partsOf_append_slash, hsrc] at hpath'
  obtain ⟨-, htail⟩ := List.append_inj hpath' hlen.symm
  obtain ⟨rfl, -⟩ := List.cons.inj htail
  have hnames : ∀ b ∈ BuildFile.names, (b.map alike).head? = some (char 'b') := by decide
  obtain ⟨t, ht⟩ := List.head?_eq_some_iff.mp (hnames b hb)
  rw [ht] at hcut
  -- a build file begins with another letter
  have hfirst : char 'b' = alike (char 's') := (List.cons_prefix_cons.mp hcut).1
  exact absurd hfirst (by decide)

lemma origin_testDir (here : Location) (hpath : path = root ++ rest) (hroot : root ≠ [])
    (hplace : testPlace path = .ok (dir, name)) (hp : p ≠ []) (hbegin : Path.Beginning p dir) :
    Disk.origin here p = Disk.origin here root := by
  obtain ⟨hdir, -, heq⟩ := testPlace_eq_ok hplace
  obtain ⟨q, rfl, -⟩ := hbegin
  set up := Text.before (Path.ofText path).name path with hup
  have halike : (p ++ q).map alike = up.map alike := by rw [heq, map_alike_replaceFirst]
  have hup' : up ≠ [] := by
    rintro h
    rw [h] at halike
    exact hdir (by simpa using halike)
  obtain ⟨r, hr⟩ := before_isPrefix (Path.ofText path).name path
  have hheads : up.head? = root.head? := by
    have hboth : (up ++ r).head? = (root ++ rest).head? := by rw [hr, hpath]
    rwa [List.head?_append_of_ne_nil _ hup', List.head?_append_of_ne_nil _ hroot] at hboth
  have hslash : ∀ c : CodePoint, alike c = char '/' ↔ c = char '/' := fun c =>
    alike_eq_iff (by decide) (by decide)
  have hhead : p.head? = some (char '/') ↔ root.head? = some (char '/') := by
    have h := congrArg List.head? halike
    rw [List.map_append, List.head?_append_of_ne_nil _ (by simpa using hp), List.head?_map,
      List.head?_map, hheads] at h
    cases hph : p.head? <;> cases hrh : root.head? <;> simp_all
    rw [← hslash, h, hslash]
  simp only [Disk.origin, hhead]

/-- **No directory on the way to a test stands where a build file of the module
would**, if the path has no two dots in it. -/
theorem lexical_testDir_ne (here : Location)
    (hpath : path = root ++ char '/' :: ("src".toText ++ rest)) (hroot : root ≠ [])
    (hdots : [char '.', char '.'] ∉ Disk.steps path)
    (hplace : testPlace path = .ok (dir, name)) (hp : p ≠ []) (hbegin : Path.Beginning p dir)
    (hb : b ∈ BuildFile.names) :
    Disk.lexical (Disk.origin here p) (Disk.steps p) ≠
      b :: Disk.lexical (Disk.origin here root) (Disk.steps root) := by
  intro heq
  have hparts := Path.partsOf_beginning hbegin
  have hdot : ∀ q, [char '.'] ∉ Path.partsOf q := fun q h => by
    simp [Path.partsOf_eq_filter] at h
  have hrootplain : ∀ c ∈ Path.partsOf root, c ≠ [char '.'] ∧ c ≠ [char '.', char '.'] := by
    intro c hc
    refine ⟨fun h => hdot root (h ▸ hc), ?_⟩
    rintro rfl
    refine hdots ?_
    rw [hpath, Disk.steps_append_slash]
    rw [Path.partsOf_eq_filter] at hc
    exact List.mem_append_left _ (List.mem_filter.mp hc).1
  -- both begin in one place, and the directory of the module is followed without going up
  rw [origin_testDir here hpath hroot hplace hp hbegin, ← Disk.lexical_partsOf,
    ← Disk.lexical_partsOf, Disk.lexical_eq_reverse hrootplain] at heq
  have hlast : [char '.', char '.'] ∉ (Path.partsOf p).dropLast := by
    obtain ⟨t, ht⟩ := hparts
    intro hmem
    refine dots_notMem_testDir hdots hplace ?_
    rw [← ht]
    by_cases hnil : t = []
    · simpa [hnil] using hmem
    · rw [List.dropLast_append_of_ne_nil hnil]
      exact List.mem_append_left _ (List.dropLast_subset _ hmem)
  have hpre : Path.partsOf root ++ [b] <+: Path.partsOf p :=
    Disk.prefix_of_lexical (l := Disk.origin here root) (hdot p) hlast (by simp)
      (heq.trans (by simp))
  exact not_prefix_testDir hpath hplace hb (hpre.trans hparts)

end TestScaffold.Layout
