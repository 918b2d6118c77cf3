import TestScaffold.Proofs.Layout.Holding
import TestScaffold.Proofs.Text.Fields

/-!
The names in a path, and the cuts that do not look at them.

The directory of a module and the package are cut from a path at the first
occurrence of a text, and this may be in the middle of a name. Here they are
compared with the cuts between names.

* `aboveSrc` is the path above the first name `src` that has a slash before it, and
  `aboveSrc_eq_some_iff` says where this is. `moduleRoot_eq_rootOfNames_iff`: **on
  which paths the directory of the module is this one**.
* `HasNames` says that a source root has names of its own in a path.
  `packageName_names`: **what each package is made of**, and which are the names
  between the source root and the file.
-/

namespace TestScaffold.Layout

variable {path root up rest : Text}

/-! ### The first directory of sources -/

/-- What stands above the first name `src` of a path that has a slash before it. -/
def aboveSrc (path : Text) : Option Text :=
  match Text.fields (char '/') path with
  | [] => none
  | name :: names =>
      if names.any (· = "src".toText) then
        some (Text.join [char '/'] (name :: names.takeWhile (· ≠ "src".toText)))
      else none

/-- The directory of the module by the names in a path. -/
def rootOfNames (path : Text) : Except ScaffoldError Text :=
  match aboveSrc path with
  | some root => named root
  | none => .error .noModuleRoot

/-- A name `src` after a slash is an occurrence of `/src`, which ends with the name. -/
lemma fields_eq_append_src_iff {names : List Text} (hnames : names ≠ []) :
    (∃ below, Text.fields (char '/') path = names ++ "src".toText :: below) ↔
      ∃ root rest, path = root ++ ("/src".toText ++ rest) ∧ Text.fields (char '/') root = names ∧
        (rest = [] ∨ rest.head? = some (char '/')) := by
  constructor
  · rintro ⟨below, h⟩
    obtain ⟨root, tail, rfl, hroot, htail⟩ := (Text.fields_eq_append_iff hnames (by simp)).mp h
    have hhead : (Text.fields (char '/') tail).head? = some "src".toText := by rw [htail]; rfl
    obtain ⟨-, rest, rfl, hrest⟩ := Text.head?_fields_eq_some_iff.mp hhead
    exact ⟨root, rest, rfl, hroot, hrest⟩
  · rintro ⟨root, rest, rfl, rfl, hrest⟩
    have hhead : (Text.fields (char '/') ("src".toText ++ rest)).head? = some "src".toText :=
      Text.head?_fields_eq_some_iff.mpr ⟨by decide, rest, rfl, hrest⟩
    obtain ⟨below, hbelow⟩ := List.head?_eq_some_iff.mp hhead
    exact ⟨below, by rw [← hbelow]; exact Text.fields_append_cons (char '/') root _⟩

lemma takeWhile_ne_append_cons {name : Text} {names : List Text} (h : name ∉ names)
    (below : List Text) : (names ++ name :: below).takeWhile (· ≠ name) = names := by
  rw [List.takeWhile_append_of_pos fun n hn => by simpa using ne_of_mem_of_not_mem hn h]
  simp

/-- **Where a path is cut by its names.** -/
theorem aboveSrc_eq_some_iff : aboveSrc path = some root ↔
    ∃ rest, path = root ++ ("/src".toText ++ rest) ∧ (rest = [] ∨ rest.head? = some (char '/')) ∧
      "src".toText ∉ (Text.fields (char '/') root).tail := by
  constructor
  -- from the names to the text: the first name is left out, since nothing stands before it
  · intro h
    obtain ⟨name, names, hfields⟩ := List.exists_cons_of_ne_nil (Text.fields_ne_nil (char '/') path)
    simp only [aboveSrc, hfields] at h
    split at h
    · next hany =>
        have hmem : "src".toText ∈ names := by simpa using hany
        obtain ⟨above, below, rfl, habove⟩ := List.eq_append_cons_of_mem hmem
        obtain ⟨root', rest, hpath, hroot, hrest⟩ :=
          (fields_eq_append_src_iff (List.cons_ne_nil name above)).mp ⟨below, hfields⟩
        obtain rfl : root' = root := by
          rw [takeWhile_ne_append_cons habove, ← hroot, Text.join_fields] at h
          exact Option.some.inj h
        exact ⟨rest, hpath, hrest, by rwa [hroot, List.tail_cons]⟩
    · cases h
  · rintro ⟨rest, hpath, hrest, habove⟩
    obtain ⟨name, above, hroot⟩ := List.exists_cons_of_ne_nil (Text.fields_ne_nil (char '/') root)
    rw [hroot, List.tail_cons] at habove
    obtain ⟨below, hfields⟩ :=
      (fields_eq_append_src_iff (by simp)).mpr ⟨root, rest, hpath, hroot, hrest⟩
    rw [List.cons_append] at hfields
    have hany : (above ++ "src".toText :: below).any (· = "src".toText) := by simp
    simp only [aboveSrc, hfields, if_pos hany, takeWhile_ne_append_cons habove]
    rw [← hroot, Text.join_fields]

/-- A name `src` after a slash is an occurrence of `/src`. -/
lemma src_infix_of_mem_tail (h : "src".toText ∈ (Text.fields (char '/') path).tail) :
    "/src".toText <:+: path := by
  obtain ⟨name, names, hfields⟩ := List.exists_cons_of_ne_nil (Text.fields_ne_nil (char '/') path)
  rw [hfields, List.tail_cons] at h
  obtain ⟨above, below, rfl, -⟩ := List.eq_append_cons_of_mem h
  obtain ⟨root, rest, rfl, -, -⟩ :=
    (fields_eq_append_src_iff (List.cons_ne_nil name above)).mp ⟨below, hfields⟩
  exact ⟨root, rest, by simp⟩

/-! ### The directory of the module -/

lemma named_injective : Function.Injective named := by
  intro a b h
  by_cases ha : a = []
  · by_cases hb : b = []
    · rw [ha, hb]
    · simp [named, ha, hb] at h
  · by_cases hb : b = []
    · simp [named, ha, hb] at h
    · simpa [named, ha, hb] using h

/-- Where the names have nothing above `src`, there is no directory of the module. -/
lemma rootOfNames_eq_named (path : Text) : rootOfNames path = named ((aboveSrc path).getD []) := by
  rw [rootOfNames]
  cases aboveSrc path <;> rfl

/-- **Where the text and the names agree.** The directory of a module is what stands
before the first `/src` of the path, and all of the path if there is none. The names
have it so exactly if that `/src` is the whole of a name, or if nothing stands before
it and there is no name `src` further down. -/
theorem moduleRoot_eq_rootOfNames_iff (path : Text) :
    ((¬"/src".toText <:+: path ∧ moduleRoot path = named path) ∨
      ∃ up rest, path = up ++ ("/src".toText ++ rest) ∧ ¬"/src".toText <:+: up ∧
        moduleRoot path = named up) ∧
    (moduleRoot path = rootOfNames path ↔ path = [] ∨
      ∃ up rest, path = up ++ ("/src".toText ++ rest) ∧ ¬"/src".toText <:+: up ∧
        ((rest = [] ∨ rest.head? = some (char '/')) ∨ (up = [] ∧ aboveSrc path = none))) := by
  refine ⟨moduleRoot_eq_named path, ?_⟩
  rcases moduleRoot_eq_named path with ⟨hnone, hroot⟩ | ⟨up, rest, hpath, hfirst, hroot⟩
  · have habove : aboveSrc path = none := by
      refine Option.eq_none_iff_forall_ne_some.mpr fun root hsome => ?_
      obtain ⟨rest, rfl, -⟩ := aboveSrc_eq_some_iff.mp hsome
      exact hnone ⟨root, rest, by simp⟩
    rw [hroot, rootOfNames_eq_named, named_injective.eq_iff, habove, Option.getD_none, iff_self_or]
    rintro ⟨up, rest, rfl, -⟩
    exact absurd ⟨up, rest, by simp⟩ hnone
  · rw [hroot, rootOfNames_eq_named, named_injective.eq_iff]
    constructor
    · intro h
      refine .inr ⟨up, rest, hpath, hfirst, ?_⟩
      cases habove : aboveSrc path with
      | none => exact .inr ⟨by rw [h, habove, Option.getD_none], rfl⟩
      | some root =>
          rw [habove, Option.getD_some] at h
          subst h
          obtain ⟨rest', hpath', hrest, -⟩ := aboveSrc_eq_some_iff.mp habove
          rw [hpath, List.append_cancel_left_eq, List.append_cancel_left_eq] at hpath'
          exact .inl (hpath' ▸ hrest)
    · rintro (rfl | ⟨up', rest', hpath', hfirst', hends⟩)
      · simp at hpath
      -- the first occurrence is one, so both descriptions of it are the same
      have hcut := cut?_src_eq_some_iff.mpr ⟨hpath, hfirst⟩
      have hcut' := cut?_src_eq_some_iff.mpr ⟨hpath', hfirst'⟩
      obtain ⟨rfl, rfl⟩ := Prod.mk.inj (Option.some.inj (hcut.symm.trans hcut'))
      rcases hends with hrest | ⟨rfl, habove⟩
      · have habove : aboveSrc path = some up := aboveSrc_eq_some_iff.mpr
          ⟨rest, hpath, hrest, fun hmem => hfirst (src_infix_of_mem_tail hmem)⟩
        rw [habove, Option.getD_some]
      · rw [habove, Option.getD_none]

/-- The first `/src` may begin a longer name, and there may be none at all. -/
theorem moduleRoot_ne_rootOfNames :
    moduleRoot "app/src-gen/src/main/kotlin/C.kt".toText = .ok "app".toText ∧
      rootOfNames "app/src-gen/src/main/kotlin/C.kt".toText = .ok "app/src-gen".toText ∧
      moduleRoot "app/C.kt".toText = .ok "app/C.kt".toText ∧
      rootOfNames "app/C.kt".toText = .error .noModuleRoot := by
  decide +kernel

/-! ### The names of a package -/

/-- Names, each with a slash after it. -/
def slashed (names : List Text) : Text := names.flatMap (· ++ [char '/'])

/-- After names with their slashes, a text has its own names. -/
lemma fields_slashed_append {names : List Text} (h : ∀ n ∈ names, char '/' ∉ n) (s : Text) :
    Text.fields (char '/') (slashed names ++ s) = names ++ Text.fields (char '/') s := by
  induction names with
  | nil => rfl
  | cons n names ih =>
      have hn := h n (by simp)
      have hrest := ih fun m hm => h m (by simp [hm])
      have hassoc : slashed (n :: names) ++ s = n ++ char '/' :: (slashed names ++ s) := by
        simp [slashed]
      rw [hassoc, Text.fields_append_cons, Text.fields_of_notMem hn, hrest]
      rfl

lemma slashed_fields (s : Text) : slashed (Text.fields (char '/') s) = s ++ [char '/'] := by
  induction s with
  | nil => rfl
  | cons c s ih =>
      obtain ⟨f, fs, hf⟩ := List.exists_cons_of_ne_nil (Text.fields_ne_nil (char '/') s)
      rw [hf] at ih
      by_cases hc : c = char '/' <;> simpa [Text.fields, hc, hf, slashed] using ih

/-- A text ends where a name ends. -/
lemma exists_slashed_iff {before : Text} :
    (∃ names, (∀ n ∈ names, char '/' ∉ n) ∧ before = slashed names) ↔
      before = [] ∨ before.getLast? = some (char '/') := by
  constructor
  · rintro ⟨names, -, rfl⟩
    rcases List.eq_nil_or_concat' names with rfl | ⟨names, n, rfl⟩
    · exact .inl rfl
    · exact .inr (by simp [slashed])
  · rintro (rfl | hlast)
    · exact ⟨[], by simp, rfl⟩
    · obtain ⟨front, rfl⟩ := List.getLast?_eq_some_iff.mp hlast
      exact ⟨_, fun _ => Text.notMem_of_mem_fields, (slashed_fields front).symm⟩

/-- The names of a path: those above a source root, its own, those of the directories
below it and that of the file. -/
def HasNames (path marker : Text) (above dirs : List Text) (name : Text) : Prop :=
  Text.fields (char '/') path = above ++ (Text.fields (char '/') marker ++ (dirs ++ [name]))

lemma hasNames_slashed_iff {above dirs : List Text} {marker name : Text}
    (habove : ∀ n ∈ above, char '/' ∉ n) :
    HasNames (slashed above ++ (marker ++ rest)) marker above dirs name ↔
      ∃ below, rest = char '/' :: below ∧ Text.fields (char '/') below = dirs ++ [name] := by
  rw [HasNames, fields_slashed_append habove, List.append_cancel_left_eq,
    Text.fields_eq_append_iff (Text.fields_ne_nil _ _) (by simp)]
  constructor
  · rintro ⟨marker', below, heq, hmarker, hbelow⟩
    have hsame : marker' = marker := by
      rw [← Text.join_fields (char '/') marker', hmarker, Text.join_fields]
    rw [hsame, List.append_cancel_left_eq] at heq
    exact ⟨below, heq, hbelow⟩
  · rintro ⟨below, rfl, hbelow⟩
    exact ⟨marker, below, rfl, rfl, hbelow⟩

/-- A text without a dot at its beginning. -/
def undot : Text → Text
  | char '.' :: s => s
  | s => s

/-- **The package is the names before the last one**, joined by dots. -/
lemma packageOf_eq {dirs : List Text} {name : Text}
    (h : Text.fields (char '/') rest = dirs ++ [name]) :
    packageOf rest = undot (Text.join [char '.'] dirs) := by
  have hundot : packageOf rest =
      undot ((Text.cutLast (char '/') rest).1.map
        fun c => if c = char '/' then char '.' else c) := rfl
  rw [hundot]
  by_cases hdirs : dirs = []
  · rw [hdirs, List.nil_append] at h
    obtain ⟨rfl, hname⟩ := Text.fields_eq_singleton_iff.mp h
    rw [Text.cutLast_of_notMem hname, hdirs]
    rfl
  · obtain ⟨front, last, rfl, hfront, hlast⟩ :=
      (Text.fields_eq_append_iff hdirs (by simp)).mp h
    obtain ⟨rfl, hname⟩ := Text.fields_eq_singleton_iff.mp hlast
    rw [Text.cutLast_append_cons front hname, ← Text.join_fields_eq_map, hfront]

/-- The dot of the slash after a source root is the one that is left out. -/
lemma packageOf_slash {below : Text} {dirs : List Text} {name : Text}
    (h : Text.fields (char '/') below = dirs ++ [name]) :
    packageOf (char '/' :: below) = Text.join [char '.'] dirs := by
  have hall : Text.fields (char '/') (char '/' :: below) = ([] :: dirs) ++ [name] := by
    rw [Text.fields, if_pos rfl, h, List.cons_append]
  rw [packageOf_eq hall]
  by_cases hdirs : dirs = []
  · rw [hdirs]
    rfl
  · rw [Text.join_cons hdirs]
    rfl

variable {roots : List Text}

lemma exists_fields_eq_concat (s : Text) :
    ∃ names last, Text.fields (char '/') s = names ++ [last] := by
  rcases List.eq_nil_or_concat' (Text.fields (char '/') s) with h | ⟨names, last, h⟩
  · exact absurd h (Text.fields_ne_nil (char '/') s)
  · exact ⟨names, last, h⟩

/-- No source root occurs, or the package is read after one of them. -/
lemma sourceRoot_cases (roots : List Text) (path : Text) :
    (sourceRoot roots path = .error (.noSourceRoot roots) ∧ ∀ r ∈ roots, ¬r <:+: path) ∨
      ∃ marker ∈ roots, ∃ before rest, ReadAt roots path marker before rest := by
  cases hfind : roots.find? fun r => Text.contains r path with
  | none =>
      refine .inl ⟨by simp only [sourceRoot, hfind], fun r hr hin => ?_⟩
      exact List.find?_eq_none.mp hfind r hr (Text.contains_iff.mpr hin)
  | some marker =>
      have hchosen : sourceRoot roots path = .ok marker := by simp only [sourceRoot, hfind]
      exact .inr ⟨marker, List.mem_of_find?_eq_some hfind, exists_readAt hchosen⟩

/-- **Which packages are made of whole names.** A path without any of the source roots is
refused. Each other one has the package that its names after the first occurrence of its
source root give, less a dot at the beginning. The source root has names of its own
there, with the package strictly between it and the file, exactly if it stands at the
beginning or after a slash, and before a slash. -/
theorem packageName_names (hroots : [] ∉ roots) (path : Text) :
    (packageName roots path = .error (.scaffold (.noSourceRoot roots)) ∧
      ∀ r ∈ roots, ¬r <:+: path) ∨
    ∃ marker before rest names last, marker ∈ roots ∧ ReadAt roots path marker before rest ∧
      path = before ++ (marker ++ rest) ∧ Text.fields (char '/') rest = names ++ [last] ∧
      packageName roots path = .ok (undot (Text.join [char '.'] names)) ∧
      ((∃ above dirs name, HasNames path marker above dirs name ∧ before = slashed above ∧
        packageName roots path = .ok (Text.join [char '.'] dirs)) ↔
        (before = [] ∨ before.getLast? = some (char '/')) ∧ rest.head? = some (char '/')) := by
  rcases sourceRoot_cases roots path with ⟨herror, hnone⟩ | ⟨marker, hmem, before, rest, hread⟩
  · exact .inl ⟨by simp only [packageName, herror], hnone⟩
  have hmarker : marker ≠ [] := fun h => hroots (h ▸ hmem)
  have hpackage : packageName roots path = .ok (packageOf rest) :=
    packageName_eq_ok_iff.mpr ⟨marker, before, rest, hread, hmarker, rfl⟩
  obtain ⟨names, last, hnames⟩ := exists_fields_eq_concat rest
  refine .inr ⟨marker, before, rest, names, last, hmem, hread, hread.path_eq, hnames, ?_, ?_⟩
  · rw [hpackage, packageOf_eq hnames]
  rw [hpackage, ← exists_slashed_iff]
  constructor
  · rintro ⟨above, dirs, name, hhas, rfl, -⟩
    have habove : ∀ n ∈ above, char '/' ∉ n := fun n hn =>
      Text.notMem_of_mem_fields (s := path) (by rw [hhas]; simp [hn])
    rw [hread.path_eq] at hhas
    obtain ⟨below, rfl, -⟩ := (hasNames_slashed_iff habove).mp hhas
    exact ⟨⟨above, habove, rfl⟩, rfl⟩
  · rintro ⟨⟨above, habove, rfl⟩, hrest⟩
    obtain ⟨below, rfl⟩ := List.head?_eq_some_iff.mp hrest
    obtain ⟨dirs, name, hbelow⟩ := exists_fields_eq_concat below
    refine ⟨above, dirs, name, ?_, rfl, by rw [packageOf_slash hbelow]⟩
    rw [hread.path_eq, hasNames_slashed_iff habove]
    exact ⟨below, rfl, hbelow⟩

/-- A source in a directory whose name begins with a dot. -/
def belowDot : Text := "app/src/main/kotlin/.a/b/C.kt".toText

/-- The dot of a name stays, since the package of this source has it after the dot that
is left out. -/
theorem packageName_names_belowDot :
    [] ∉ Settings.default.sourceRoots ∧
      packageName Settings.default.sourceRoots belowDot = .ok ".a.b".toText ∧
      ReadAt Settings.default.sourceRoots belowDot "src/main/kotlin".toText "app/".toText
        "/.a/b/C.kt".toText ∧
      ∃ above dirs name, HasNames belowDot "src/main/kotlin".toText above dirs name ∧
        "app/".toText = slashed above ∧
        packageName Settings.default.sourceRoots belowDot = .ok (Text.join [char '.'] dirs) := by
  have hroots : [] ∉ Settings.default.sourceRoots := by decide
  have hread : ReadAt Settings.default.sourceRoots belowDot "src/main/kotlin".toText
      "app/".toText "/.a/b/C.kt".toText := ⟨by decide +kernel, by decide +kernel⟩
  refine ⟨hroots, by decide +kernel, hread, ?_⟩
  rcases packageName_names hroots belowDot with
    ⟨herror, -⟩ | ⟨marker, before, rest, names, last, -, hread', -, -, -, hwhole⟩
  · exact absurd herror (by decide +kernel)
  · obtain ⟨rfl, rfl, rfl⟩ := hread.unique hread'
    exact hwhole.mpr ⟨.inr rfl, rfl⟩

/-- A package may begin in the middle of a name, in a path where no source root has names
of its own. -/
theorem packageName_within_name :
    packageName Settings.default.sourceRoots "app/src/main/javascript/a/B.java".toText =
        .ok "script.a".toText ∧
      ¬∃ root ∈ Settings.default.sourceRoots, ∃ above dirs name,
        HasNames "app/src/main/javascript/a/B.java".toText root above dirs name := by
  refine ⟨by decide +kernel, ?_⟩
  rintro ⟨root, hroot, above, dirs, name, hhas⟩
  have hinfix : ∀ r ∈ Settings.default.sourceRoots, ¬Text.fields (char '/') r <:+:
      Text.fields (char '/') "app/src/main/javascript/a/B.java".toText := by
    decide +kernel
  exact hinfix root hroot ⟨above, dirs ++ [name], by rw [hhas, List.append_assoc]⟩

end TestScaffold.Layout
