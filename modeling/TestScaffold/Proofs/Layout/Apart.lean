import TestScaffold.Proofs.Disk.Straight
import TestScaffold.Proofs.Layout.Holding
import TestScaffold.Proofs.Layout.TestDir

/-!
The directory of a test beside the source root of its source.

One is the directory of the source with the first `main` turned into `test`,
the other is whatever the settings say. So it depends on where that `main` is whether
tests are kept apart from the sources.

* `Disk.staysIn` says of the parts of a path that they never lead above the directory
  from which they begin, and `suffix_of_staysIn` that they stay below it then.
* `parts_of_word`: a letter in a path is in one part of it, after what the path has since
  the last slash. So a path leads through that part (`placeOf_of_word`), unless two dots
  lead out of it again (`Path.keeps`).
* `testDir_ne_of_main`, `testDir_eq_of_no_main`: **the test is in the directory of the source
  exactly if there is no `main`**.
* `not_below_of_main`, `below_of_no_main`: **it is below the source root exactly if no `main`
  begins there.**
-/

namespace TestScaffold

namespace Disk

/-! ### Staying in a directory -/

/-- The names never lead above the place from which they begin, which is so many levels
down. -/
def staysIn : ℕ → List Text → Bool
  | _, [] => true
  | depth, c :: cs =>
    if c = [char '.'] then staysIn depth cs
    else if c = [char '.', char '.'] then depth ≠ 0 && staysIn (depth - 1) cs
    else staysIn (depth + 1) cs

variable {l l₀ : Location} {cs ds : List Text} {depth : ℕ}

lemma staysIn_of_append (h : staysIn depth (cs ++ ds)) : staysIn depth cs := by
  induction cs generalizing depth with
  | nil => rfl
  | cons c cs ih =>
      rw [List.cons_append, staysIn] at h
      rw [staysIn]
      split_ifs at h ⊢
      · exact ih h
      · rw [Bool.and_eq_true] at h ⊢
        exact ⟨h.1, ih h.2⟩
      · exact ih h

lemma suffix_of_staysIn_length (xs m : Location) (h : staysIn xs.length cs) :
    m <:+ lexical (xs ++ m) cs := by
  induction cs generalizing xs with
  | nil => exact List.suffix_append xs m
  | cons c cs ih =>
      rw [staysIn] at h
      rw [lexical_cons, stepTo]
      split_ifs at h ⊢
      · exact ih xs h
      · obtain ⟨hdeep, h⟩ := Bool.and_eq_true_iff.mp h
        cases xs with
        | nil => simp at hdeep
        | cons x xs => exact ih xs h
      · exact ih (c :: xs) h

/-- **Names that stay in a directory lead to a place below it.** -/
lemma suffix_of_staysIn (h : staysIn 0 cs) (l : Location) : l <:+ lexical l cs :=
  suffix_of_staysIn_length [] l h

/-- One more name leads out of the directory by one level at most. -/
lemma suffix_or_eq_of_staysIn (h : staysIn 0 cs) (e c : Text) :
    (e :: l) <:+ lexical (e :: l) (cs ++ [c]) ∨ lexical (e :: l) (cs ++ [c]) = l := by
  have hin : (e :: l) <:+ lexical (e :: l) cs := suffix_of_staysIn h _
  rw [lexical_append, lexical_cons, lexical_nil, stepTo]
  split_ifs
  · exact .inl hin
  · obtain ⟨zs, hzs⟩ := hin
    rw [← hzs]
    cases zs with
    | nil => exact .inr rfl
    | cons z zs => exact .inl (List.suffix_append zs _)
  · exact .inl (hin.trans (List.suffix_cons c _))

/-- Two places below different entries of one directory are not below each other. -/
lemma eq_of_suffix {e e' : Text} (h : e :: l₀ <:+ l) (h' : e' :: l₀ <:+ l) : e = e' := by
  have hsame := List.suffix_of_suffix_length_le h h' (by simp)
  exact (List.cons.inj (hsame.eq_of_length (by simp))).1

end Disk

namespace Path

/-! ### The part that a letter is in -/

/-- The parts of a path after the one that the character at the position is in. -/
def beyond (n : ℕ) (p : Text) : List Text := partsOf ((p.drop n).dropWhile (· != char '/'))

/-- They do not lead out of that part. -/
def keeps (n : ℕ) (p : Text) : Bool := Disk.staysIn 0 (beyond n p)

variable {a₀ a₁ a x : Text} {c : CodePoint}

/-- What a path has before its last slash, and what it has since. -/
lemma exists_cut (a : Text) :
    ∃ a₀ a₁, a = a₀ ++ a₁ ∧ char '/' ∉ a₁ ∧ (a₀ = [] ∨ a₀.getLast? = some (char '/')) := by
  rcases Text.cutLast_cases (char '/') a with ⟨hnone, -⟩ | ⟨up, last, rfl, hlast, -⟩
  · exact ⟨[], a, rfl, hnone, .inl rfl⟩
  · exact ⟨up ++ [char '/'], last, by simp, hlast, .inr (by simp)⟩

/-- **A letter is in one part of a path**, after what the path has since the last slash. -/
lemma parts_of_word (h₀ : a₀ = [] ∨ a₀.getLast? = some (char '/')) (h₁ : char '/' ∉ a₁)
    (hx : x.head? = some c) (hslash : c ≠ char '/') (hdot : c ≠ char '.') :
    ∃ e rest, e ++ rest = a₁ ++ x ∧ a₁ ++ [c] <+: e ∧ e ≠ [char '.'] ∧ e ≠ [char '.', char '.'] ∧
      partsOf (a₀ ++ a₁ ++ x) = partsOf a₀ ++ e :: beyond (a₀ ++ a₁).length (a₀ ++ a₁ ++ x) := by
  obtain ⟨t, rfl⟩ := List.head?_eq_some_iff.mp hx
  -- the rest of the part in which the letter is, and what comes after that part
  set y := (c :: t).takeWhile (· != char '/') with hy
  set z := (c :: t).dropWhile (· != char '/') with hz
  have hsplit : y ++ z = c :: t := List.takeWhile_append_dropWhile
  have hfirst : y = c :: t.takeWhile (· != char '/') := by
    rw [hy, List.takeWhile_cons_of_pos (by simpa using hslash)]
  have hmem : c ∈ a₁ ++ y := by simp [hfirst]
  have hnotMem : char '/' ∉ a₁ ++ y := by
    rw [List.mem_append, not_or]
    exact ⟨h₁, fun h => by simpa using List.mem_takeWhile_imp h⟩
  have hne : a₁ ++ y ≠ [char '.'] := by
    intro h
    rw [h] at hmem
    exact hdot (by simpa using hmem)
  have hpart : partsOf (a₁ ++ y) = [a₁ ++ y] := by
    rw [partsOf, Text.fields_of_notMem hnotMem, List.filter_cons_of_pos]
    · rfl
    · simp [List.ne_nil_of_mem hmem, hne]
  have hseam : z = [] ∨ z.head? = some (char '/') := by
    have hstops := Text.stops_dropWhile (· != char '/') (c :: t)
    rw [← hz] at hstops
    cases hd : z with
    | nil => exact .inl rfl
    | cons d z' =>
        rw [hd, Text.stops_cons] at hstops
        exact .inr (by simpa using hstops)
  refine ⟨a₁ ++ y, z, by rw [List.append_assoc, hsplit], ?_, hne, ?_, ?_⟩
  · rw [hfirst]
    exact ⟨t.takeWhile (· != char '/'), by simp⟩
  · intro h
    rw [h] at hmem
    exact hdot (by simpa using hmem)
  · have hall : a₀ ++ a₁ ++ c :: t = a₀ ++ (a₁ ++ y ++ z) := by
      rw [List.append_assoc, List.append_assoc, hsplit]
    rw [beyond, List.drop_left, ← hz, hall]
    have hend : partsOf (a₁ ++ y ++ z) = (a₁ ++ y) :: partsOf z := by
      rw [partsOf_append_of_seam (hseam.imp_right .inl), hpart]
      rfl
    rcases h₀ with rfl | h₀
    · simpa [partsOf_eq_filter] using hend
    · rw [partsOf_append_of_seam (.inr (.inr h₀)), hend]

end Path

namespace Disk

variable {here : Location} {a₀ a₁ x : Text} {c : CodePoint}

lemma origin_of_word (here : Location) (a : Text) (hx : x.head? = some c) (hslash : c ≠ char '/') :
    origin here (a ++ x) = origin here a := by
  cases a with
  | nil => simp [origin, hx, hslash]
  | cons d a => simp [origin]

/-- The directory that a path is in before its last slash. -/
def trunk (here : Location) (a₀ a₁ : Text) : Location :=
  lexical (origin here (a₀ ++ a₁)) (Path.partsOf a₀)

/-- **The place of a path with a letter in it** is reached through the part that the letter
is in. -/
lemma placeOf_of_word (here : Location) (h₀ : a₀ = [] ∨ a₀.getLast? = some (char '/'))
    (h₁ : char '/' ∉ a₁) (hx : x.head? = some c) (hslash : c ≠ char '/') (hdot : c ≠ char '.') :
    ∃ e rest, e ++ rest = a₁ ++ x ∧ a₁ ++ [c] <+: e ∧
      Path.partsOf (a₀ ++ a₁ ++ x) =
        Path.partsOf a₀ ++ e :: Path.beyond (a₀ ++ a₁).length (a₀ ++ a₁ ++ x) ∧
      placeOf here (a₀ ++ a₁ ++ x) =
        lexical (e :: trunk here a₀ a₁) (Path.beyond (a₀ ++ a₁).length (a₀ ++ a₁ ++ x)) := by
  obtain ⟨e, rest, hrest, hfirst, hne, hdots, hparts⟩ := Path.parts_of_word h₀ h₁ hx hslash hdot
  refine ⟨e, rest, hrest, hfirst, hparts, ?_⟩
  rw [placeOf, ← lexical_partsOf, hparts, origin_of_word here _ hx hslash, lexical_append,
    lexical_cons, stepTo, if_neg hne, if_neg hdots, trunk]

end Disk

namespace Layout

open Disk (placeOf trunk staysIn lexical)

variable {path dir name root a b : Text}

/-- The first `main` before the name of a file: what stands there before it, and after
it. -/
def firstMain (path : Text) : Option (Text × Text) :=
  Text.cut? "main".toText (Text.before (Path.ofText path).name path)

/-! ### A path with the word in it -/

/-- The directory that the first `main` is in the name of gets that name with `test` in its
place. -/
lemma exists_word (hplace : testPlace path = .ok (dir, name))
    (hmain : firstMain path = some (a, b)) :
    ∃ w, dir = a ++ ("test".toText ++ b) ∧ path = a ++ ("main".toText ++ (b ++ w)) ∧
      a.length < (Text.before (Path.ofText path).name path).length := by
  obtain ⟨-, -, hdir⟩ := testPlace_eq_ok hplace
  have hcut : Text.cut? "main".toText (Text.before (Path.ofText path).name path) =
      some (a, b) := hmain
  rw [Text.replaceFirst, hcut] at hdir
  have hsplit := Text.eq_append_of_cut? hcut
  obtain ⟨w, hw⟩ := before_isPrefix (Path.ofText path).name path
  refine ⟨w, hdir.trans (by simp), ?_, ?_⟩
  · rw [← hw, hsplit]
    simp
  · have hword : "main".toText.length = 4 := rfl
    rw [hsplit]
    simp only [List.length_append, hword]
    omega

section Word

variable {a₀ a₁ w x : Text} {c : CodePoint} {here : Location}

/-- The place of a directory on the way to a source, with a letter in it. -/
lemma suffix_placeOf_of_word (here : Location) (h₀ : a₀ = [] ∨ a₀.getLast? = some (char '/'))
    (h₁ : char '/' ∉ a₁) (hx : x.head? = some c) (hslash : c ≠ char '/') (hdot : c ≠ char '.')
    (hkeeps : Path.keeps (a₀ ++ a₁).length (a₀ ++ a₁ ++ x)) :
    ∃ e, a₁ ++ [c] <+: e ∧ e :: trunk here a₀ a₁ <:+ placeOf here (a₀ ++ a₁ ++ x) := by
  obtain ⟨e, -, -, hfirst, -, hplace⟩ := Disk.placeOf_of_word here h₀ h₁ hx hslash hdot
  rw [hplace]
  exact ⟨e, hfirst, Disk.suffix_of_staysIn hkeeps _⟩

/-- The directory of a source, with a letter in it that is before its name. -/
lemma suffix_source_of_word (here : Location) (h₀ : a₀ = [] ∨ a₀.getLast? = some (char '/'))
    (h₁ : char '/' ∉ a₁) (hx : x.head? = some c) (hslash : c ≠ char '/') (hdot : c ≠ char '.')
    (hpath : path = a₀ ++ a₁ ++ x) (hname : Path.IsName (Path.ofText path).name)
    (hbefore : (a₀ ++ a₁).length < (Text.before (Path.ofText path).name path).length)
    (hkeeps : Path.keeps (a₀ ++ a₁).length path) :
    ∃ e, a₁ ++ [c] <+: e ∧ e :: trunk here a₀ a₁ <:+ (placeOf here path).tail := by
  obtain ⟨e, rest, hrest, hfirst, hparts, hplace⟩ :=
    Disk.placeOf_of_word here h₀ h₁ hx hslash hdot
  rw [← hpath] at hparts hplace
  have hlast : (Path.ofText path).name = (Path.partsOf path).getLast?.getD [] := rfl
  rcases List.eq_nil_or_concat (Path.beyond (a₀ ++ a₁).length path) with hnil | ⟨zs, d, hd⟩
  · -- the letter would be in the name, which is not before its first occurrence
    rw [hparts, hnil, List.getLast?_concat, Option.getD_some] at hlast
    have hwhole : path = a₀ ++ (e ++ rest) := by rw [hpath, hrest, List.append_assoc]
    rw [hlast, Text.before] at hbefore
    split at hbefore
    · next q hcut =>
        rw [hwhole] at hcut
        have hle := Text.length_le_of_cut? hcut
        rw [List.length_append] at hbefore
        omega
    · next hnone =>
        rw [Text.cut?_eq_none_iff] at hnone
        exact absurd ⟨a₀, rest, by rw [hwhole, List.append_assoc]⟩ hnone
  · rw [List.concat_eq_append] at hd
    have hparts' : Path.partsOf path = (Path.partsOf a₀ ++ e :: zs) ++ [d] := by
      rw [hparts, hd]
      simp
    rw [hparts', List.getLast?_concat, Option.getD_some] at hlast
    rw [hlast] at hname
    rw [Path.keeps, hd] at hkeeps
    rw [hplace, hd, Disk.lexical_concat hname.ne_dot hname.ne_dots]
    exact ⟨e, hfirst, Disk.suffix_of_staysIn (Disk.staysIn_of_append hkeeps) _⟩

/-- The parts of what begins a path stay in a directory if those of the path do, but for
the last one, which may be cut. -/
lemma staysIn_of_isPrefix {p q : Text} {zs : List Text} {d : Text} (h : p <+: q)
    (hq : staysIn 0 (Path.partsOf q)) (hp : Path.partsOf p = zs ++ [d]) : staysIn 0 zs := by
  obtain ⟨d', ws, hparts, -⟩ := Path.partsOf_of_isPrefix h hp
  rw [hparts] at hq
  exact Disk.staysIn_of_append hq

/-- The directory of a test is below the directory with the new name. Since it may be cut, it
may also lead out of that one again, but no further. -/
lemma suffix_testDir_of_word (here : Location) (h₀ : a₀ = [] ∨ a₀.getLast? = some (char '/'))
    (h₁ : char '/' ∉ a₁) (hdir : dir = a₀ ++ a₁ ++ ("test".toText ++ b))
    (hpath : path = a₀ ++ a₁ ++ ("main".toText ++ (b ++ w)))
    (hkeeps : Path.keeps (a₀ ++ a₁).length path) :
    (∃ e, a₁ ++ [char 't'] <+: e ∧ e :: trunk here a₀ a₁ <:+ placeOf here dir) ∨
      placeOf here dir = trunk here a₀ a₁ := by
  have hmain : ∀ c ∈ "main".toText, (c != char '/') = true := by simp
  have htest : ∀ c ∈ "test".toText, (c != char '/') = true := by simp
  obtain ⟨e, -, -, hfirst, -, hplace⟩ := Disk.placeOf_of_word here (x := "test".toText ++ b)
    h₀ h₁ rfl (by decide) (by decide)
  rw [← hdir] at hplace
  rw [hpath, Path.keeps, Path.beyond, List.drop_left, List.dropWhile_append_of_pos hmain] at hkeeps
  rw [hdir, Path.beyond, List.drop_left, List.dropWhile_append_of_pos htest, ← hdir] at hplace
  rcases List.eq_nil_or_concat (Path.partsOf (b.dropWhile (· != char '/'))) with hnil | ⟨zs, d, hd⟩
  · rw [hnil, Disk.lexical_nil] at hplace
    rw [hplace]
    exact .inl ⟨e, hfirst, List.suffix_rfl⟩
  · rw [List.concat_eq_append] at hd
    have hlong : b.dropWhile (· != char '/') <+: (b ++ w).dropWhile (· != char '/') := by
      rw [List.dropWhile_append]
      split
      · next hempty =>
          rw [List.isEmpty_iff.mp hempty]
          exact List.nil_prefix
      · exact List.prefix_append _ _
    have hin := staysIn_of_isPrefix hlong hkeeps hd
    rw [hplace, hd]
    exact (Disk.suffix_or_eq_of_staysIn hin e d).imp_left fun h => ⟨e, hfirst, h⟩

/-- So it is below no part that has the old word in this place. -/
lemma not_suffix_testDir_of_word {p : Text} (here : Location)
    (h₀ : a₀ = [] ∨ a₀.getLast? = some (char '/')) (h₁ : char '/' ∉ a₁)
    (hdir : dir = a₀ ++ a₁ ++ ("test".toText ++ b))
    (hpath : path = a₀ ++ a₁ ++ ("main".toText ++ (b ++ w)))
    (hkeeps : Path.keeps (a₀ ++ a₁).length path) (hp : a₁ ++ [char 'm'] <+: p) :
    ¬p :: trunk here a₀ a₁ <:+ placeOf here dir := by
  intro hsuffix
  rcases suffix_testDir_of_word here h₀ h₁ hdir hpath hkeeps with ⟨q, hq, hq'⟩ | heq
  · obtain rfl := Disk.eq_of_suffix hsuffix hq'
    have hsame := (List.prefix_of_prefix_length_le hp hq (by simp)).eq_of_length (by simp)
    simp at hsame
  · rw [heq] at hsuffix
    have hlen := hsuffix.length_le
    simp at hlen

end Word

/-- **Where there is a `main`, the test is not in the directory of the source**, if two dots
do not lead out of the directory that the first one is in the name of. -/
theorem testDir_ne_of_main (here : Location) (hplace : testPlace path = .ok (dir, name))
    (hname : Path.IsName (Path.ofText path).name) (hmain : firstMain path = some (a, b))
    (hkeeps : Path.keeps a.length path) : placeOf here dir ≠ (placeOf here path).tail := by
  obtain ⟨w, hdir, hpath, hbefore⟩ := exists_word hplace hmain
  obtain ⟨a₀, a₁, rfl, h₁, h₀⟩ := Path.exists_cut a
  obtain ⟨e, he, hsource⟩ := suffix_source_of_word here h₀ h₁
    (x := "main".toText ++ (b ++ w)) rfl (by decide) (by decide) hpath hname hbefore hkeeps
  intro h
  rw [← h] at hsource
  exact not_suffix_testDir_of_word here h₀ h₁ hdir hpath hkeeps he hsource

/-- **Where the first `main` begins in the source root, the test is nowhere below it**, if
two dots do not lead the source root out of that directory either. -/
theorem not_below_of_main (here : Location) (hplace : testPlace path = .ok (dir, name))
    (hmain : firstMain path = some (a, b)) (hkeeps : Path.keeps a.length path)
    (hroot : root <+: path) (hin : a.length < root.length) (hroots : Path.keeps a.length root) :
    ¬placeOf here root <:+ placeOf here dir := by
  obtain ⟨w, hdir, hpath, -⟩ := exists_word hplace hmain
  -- the source root begins as the path does, and goes on after the letter
  obtain ⟨y, rfl⟩ : a <+: root :=
    List.prefix_of_prefix_length_le ⟨_, hpath.symm⟩ hroot hin.le
  have hy : y.head? = some (char 'm') := by
    rw [hpath, List.prefix_append_right_inj] at hroot
    cases y with
    | nil => simp at hin
    | cons c y =>
        obtain ⟨rfl, -⟩ := List.cons_prefix_cons.mp hroot
        rfl
  obtain ⟨a₀, a₁, rfl, h₁, h₀⟩ := Path.exists_cut a
  obtain ⟨e, he, hbelow⟩ :=
    suffix_placeOf_of_word here h₀ h₁ hy (by decide) (by decide) hroots
  exact fun h => not_suffix_testDir_of_word here h₀ h₁ hdir hpath hkeeps he (hbelow.trans h)

/-! ### A source root without the word -/

/-- **A source root in which no `main` begins has the tests as well.** It is left as it is,
so the test is below it, if two dots do not lead out of it again. -/
theorem below_of_no_main (here : Location) (hplace : testPlace path = .ok (dir, name))
    (hne : root ≠ []) (hroot : root <+: Text.before (Path.ofText path).name path)
    (hafter : ∀ a b, firstMain path = some (a, b) → root.length ≤ a.length) :
    ∃ more, dir = root ++ more ∧
      (more = [] ∨ more.head? = some (char '/') ∨ root.getLast? = some (char '/') →
        staysIn 0 (Path.partsOf more) → placeOf here root <:+ placeOf here dir) := by
  obtain ⟨-, -, hdir⟩ := testPlace_eq_ok hplace
  have hpre : root <+: dir := by
    rw [hdir, Text.replaceFirst]
    split
    · next q hcut =>
        have hsplit := Text.eq_append_of_cut? hcut
        have hfront : q.1 <+: Text.before (Path.ofText path).name path :=
          ⟨_, by rw [hsplit, List.append_assoc]⟩
        have hin := List.prefix_of_prefix_length_le hroot hfront (hafter q.1 q.2 hcut)
        rw [List.append_assoc]
        exact hin.trans (List.prefix_append _ _)
    · exact hroot
  obtain ⟨more, rfl⟩ := hpre
  refine ⟨more, rfl, fun hseam hstays => ?_⟩
  rw [placeOf, placeOf, Disk.origin_append here hne, Disk.steps_append_of_seam hseam,
    Disk.lexical_append, ← Disk.lexical_partsOf _ more]
  exact Disk.suffix_of_staysIn hstays _

/-- **Where there is no `main`, the test is in the directory of the source**, if the file name
does not occur there. -/
theorem testDir_eq_of_no_main (here : Location) (hplace : testPlace path = .ok (dir, name))
    (hname : Path.IsName (Path.ofText path).name) (hmain : firstMain path = none)
    (hlast : path = Text.before (Path.ofText path).name path ++ (Path.ofText path).name) :
    placeOf here dir = (placeOf here path).tail := by
  obtain ⟨hne, -, hdir⟩ := testPlace_eq_ok hplace
  have hcut : Text.cut? "main".toText (Text.before (Path.ofText path).name path) = none :=
    hmain
  rw [Text.replaceFirst, hcut] at hdir
  obtain rfl : dir = Text.before (Path.ofText path).name path := hdir
  set dir := Text.before (Path.ofText path).name path
  set file := (Path.ofText path).name with hfile
  obtain ⟨a₀, a₁, ha, h₁, h₀⟩ := Path.exists_cut dir
  have hseam : ∀ t, Disk.steps (a₀ ++ t) = Disk.steps a₀ ++ Disk.steps t := by
    intro t
    rcases h₀ with rfl | h₀
    · simp
    · exact Disk.steps_append_of_seam (.inr (.inr h₀))
  have hproper : char '/' ∉ a₁ ++ file := by simp [h₁, hname.notMem]
  have hsteps : Disk.steps path = Disk.steps a₀ ++ [a₁ ++ file] := by
    rw [hlast, ha, List.append_assoc, hseam, Disk.steps_of_notMem (by simp [hname.ne_nil]) hproper]
  -- the name has all that is after the last slash
  have hdot : a₁ ++ file ≠ [char '.'] := by
    intro h
    rcases List.append_eq_singleton_iff.mp h with ⟨-, h⟩ | ⟨-, h⟩
    · exact hname.ne_dot h
    · exact hname.ne_nil h
  have hwhole : file = a₁ ++ file := Path.name_of_steps hsteps hdot
  obtain rfl : a₁ = [] := by simpa using hwhole
  rw [List.append_nil] at ha
  rw [List.nil_append, ← ha] at hsteps
  rw [placeOf, placeOf, hsteps, Disk.lexical_concat hname.ne_dot hname.ne_dots, List.tail_cons]
  conv_rhs => rw [hlast, Disk.origin_append here hne]

end Layout

end TestScaffold
