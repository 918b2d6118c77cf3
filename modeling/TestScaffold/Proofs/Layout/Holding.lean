import TestScaffold.Proofs.Layout.Mirror

/-!
The directory of a module and the source root of a package.

Both are cut from the same path, each at the first occurrence of its own text:
the module is what stands before `/src`, and the package is read after a source
root of the settings.

* `ReadAt` says where a package is read, and `packageName_eq_ok_iff` that each
  package is read so.
* `moduleRoot_holds`: **which paths have their source root directly in the
  directory of the module**, and where it stands otherwise: deeper in the module,
  or not after the directory of the module at all.
-/

namespace TestScaffold.Layout

variable {roots : List Text} {path root package marker before rest : Text}

/-! ### Packages -/

/-- The package of a path is read after this occurrence of this source root. -/
structure ReadAt (roots : List Text) (path marker before rest : Text) : Prop where
  chosen : sourceRoot roots path = .ok marker
  cut : Text.cut? marker path = some (before, rest)

lemma ReadAt.path_eq (h : ReadAt roots path marker before rest) :
    path = before ++ (marker ++ rest) := by
  rw [← List.append_assoc]
  exact Text.eq_append_of_cut? h.cut

/-- There is one such occurrence. -/
lemma ReadAt.unique {marker' before' rest' : Text} (h : ReadAt roots path marker before rest)
    (h' : ReadAt roots path marker' before' rest') :
    marker = marker' ∧ before = before' ∧ rest = rest' := by
  obtain rfl := Except.ok.inj (h.chosen.symm.trans h'.chosen)
  obtain ⟨rfl, rfl⟩ := Prod.mk.inj (Option.some.inj (h.cut.symm.trans h'.cut))
  exact ⟨rfl, rfl, rfl⟩

/-- A source root that is chosen occurs. -/
lemma exists_readAt (h : sourceRoot roots path = .ok marker) :
    ∃ before rest, ReadAt roots path marker before rest := by
  have hoccurs : Text.contains marker path = true := by
    rw [sourceRoot] at h
    split at h
    · next r hfind =>
        obtain rfl := Except.ok.inj h
        exact List.find?_some (p := fun r => Text.contains r path) hfind
    · cases h
  rw [Text.contains] at hoccurs
  obtain ⟨⟨before, rest⟩, hcut⟩ := Option.isSome_iff_exists.mp hoccurs
  exact ⟨before, rest, h, hcut⟩

/-- **A package is read after its source root**, which is not empty. -/
theorem packageName_eq_ok_iff : packageName roots path = .ok package ↔
    ∃ marker before rest, ReadAt roots path marker before rest ∧ marker ≠ [] ∧
      package = packageOf rest := by
  constructor
  · intro h
    cases hchosen : sourceRoot roots path with
    | error e => simp [packageName, hchosen] at h
    | ok marker =>
        obtain ⟨before, rest, hread⟩ := exists_readAt hchosen
        by_cases hne : marker = []
        · simp [packageName, hchosen, hne] at h
        · simp only [packageName, hchosen, hne, ↓reduceIte, hread.cut] at h
          exact ⟨marker, before, rest, hread, hne, (Except.ok.inj h).symm⟩
  · rintro ⟨marker, before, rest, hread, hne, rfl⟩
    simp only [packageName, hread.chosen, hne, ↓reduceIte, hread.cut]

/-! ### The source root in the module -/

/-- Two cuts of one path, of which one is before `/src`: the other comes first, or
at the slash, or after it. -/
lemma before_cases {after more : Text} (h : before ++ after = root ++ ("/src".toText ++ more)) :
    before = root ++ [char '/'] ∨ (∃ c cs, before = root ++ char '/' :: c :: cs) ∨
      before <+: root := by
  rcases List.append_eq_append_iff.mp h with ⟨w, hroot, -⟩ | ⟨w, rfl, hw⟩
  · exact .inr (.inr ⟨w, hroot.symm⟩)
  cases w with
  | nil => exact .inr (.inr (by simp))
  | cons a w =>
      obtain rfl : a = char '/' := by
        rw [List.cons_append, String.toText] at hw
        exact (List.cons.inj hw).1.symm
      cases w with
      | nil => exact .inl rfl
      | cons c cs => exact .inr (.inl ⟨c, cs, rfl⟩)

/-- **Where the source root stands**, for all settings and all paths whose module
and package are found. It stands directly in the directory of the module exactly
if what stands there begins with `src`, after a slash that no other `/src` stands
before. Otherwise it is deeper in the module, or the path comes to it before it is
through with the directory of the module. -/
theorem moduleRoot_holds (hroot : moduleRoot path = .ok root)
    (hpackage : packageName roots path = .ok package) :
    ∃ marker before rest, ReadAt roots path marker before rest ∧
      path = before ++ (marker ++ rest) ∧ package = packageOf rest ∧
      (path = root ++ char '/' :: (marker ++ rest) ↔ "src".toText <+: marker ++ rest ∧
        ∃ front, before = front ++ [char '/'] ∧ ¬"/src".toText <:+: front) ∧
      (path = root ++ char '/' :: (marker ++ rest) ∨
        (∃ c cs, before = root ++ char '/' :: c :: cs) ∨ before <+: root) := by
  obtain ⟨marker, before, rest, hread, -, rfl⟩ := packageName_eq_ok_iff.mp hpackage
  have hpath := hread.path_eq
  have hdirect : path = root ++ char '/' :: (marker ++ rest) ↔ before = root ++ [char '/'] := by
    have hassoc :
        root ++ char '/' :: (marker ++ rest) = root ++ [char '/'] ++ (marker ++ rest) := by simp
    rw [hassoc, hpath, List.append_cancel_right_eq]
  refine ⟨marker, before, rest, hread, hpath, rfl, ?_, ?_⟩
  · rw [hdirect]
    constructor
    · rintro rfl
      obtain ⟨-, ⟨hwhole, -⟩ | ⟨more, hmore, hfirst⟩⟩ := moduleRoot_cases hroot
      · have hlength := congrArg List.length hpath
        simp [hwhole] at hlength
      · have htail : marker ++ rest = "src".toText ++ more := by
          rw [hmore] at hpath
          simpa [eq_comm] using hpath
        exact ⟨⟨more, htail.symm⟩, root, rfl, hfirst⟩
    · rintro ⟨⟨more, hmore⟩, front, rfl, hfront⟩
      have hcut : path = front ++ ("/src".toText ++ more) := by
        rw [hpath, ← hmore]
        simp
      have hne' : front ≠ [] := by
        rintro rfl
        rw [hcut] at hroot
        simp [moduleRoot, Text.before, Text.cut?, Text.dropPrefix?] at hroot
      rw [hcut, moduleRoot_append hne' hfront] at hroot
      rw [Except.ok.inj hroot]
  · rw [hdirect]
    obtain ⟨-, ⟨rfl, -⟩ | ⟨more, hmore, -⟩⟩ := moduleRoot_cases hroot
    · exact .inr (.inr ⟨marker ++ rest, hpath.symm⟩)
    · exact before_cases (hpath.symm.trans hmore)

/-- A source in a module that is itself below a directory `src`. -/
def belowSrc : Text := "a/src/b/src/main/kotlin/C.kt".toText

lemma belowSrc_cuts : moduleRoot belowSrc = .ok "a".toText ∧
    packageName Settings.default.sourceRoots belowSrc = .ok [] ∧
    ReadAt Settings.default.sourceRoots belowSrc "src/main/kotlin".toText "a/src/b/".toText
      "/C.kt".toText := by
  have hchosen : sourceRoot Settings.default.sourceRoots belowSrc =
      .ok "src/main/kotlin".toText := by
    decide +kernel
  have hcut : Text.cut? "src/main/kotlin".toText belowSrc =
      some ("a/src/b/".toText, "/C.kt".toText) := by
    decide +kernel
  refine ⟨by decide +kernel, ?_, hchosen, hcut⟩
  rw [packageName_eq_ok_iff]
  exact ⟨_, _, _, ⟨hchosen, hcut⟩, by simp, by decide +kernel⟩

/-- The package of this source is read after a source root that is deeper in what is
taken for its module. -/
theorem moduleRoot_holds_belowSrc :
    moduleRoot belowSrc = .ok "a".toText ∧
      packageName Settings.default.sourceRoots belowSrc = .ok [] ∧
      ∃ marker before rest, ReadAt Settings.default.sourceRoots belowSrc marker before rest ∧
        ∃ c cs, before = "a".toText ++ char '/' :: c :: cs := by
  obtain ⟨hroot, hpackage, hread⟩ := belowSrc_cuts
  obtain ⟨marker, before, rest, hread', -, -, -, hplace⟩ := moduleRoot_holds hroot hpackage
  obtain ⟨rfl, rfl, rfl⟩ := hread.unique hread'
  refine ⟨hroot, hpackage, _, _, _, hread, ?_⟩
  rcases hplace with hdirect | hdeeper | habove
  · exact absurd hdirect (by decide +kernel)
  · exact hdeeper
  · exact absurd habove (by decide +kernel)

/-- The source root of a package is not always directly in the directory of the
module: here there is another `src` above it. -/
theorem moduleRoot_above_belowSrc :
    moduleRoot belowSrc = .ok "a".toText ∧
      packageName Settings.default.sourceRoots belowSrc = .ok [] ∧
      ¬∃ marker before rest, ReadAt Settings.default.sourceRoots belowSrc marker before rest ∧
        belowSrc = "a".toText ++ char '/' :: (marker ++ rest) := by
  obtain ⟨hroot, hpackage, hread⟩ := belowSrc_cuts
  refine ⟨hroot, hpackage, ?_⟩
  rintro ⟨marker, before, rest, hread', hpath⟩
  obtain ⟨rfl, rfl, rfl⟩ := hread.unique hread'
  exact absurd hpath (by decide +kernel)

end TestScaffold.Layout
