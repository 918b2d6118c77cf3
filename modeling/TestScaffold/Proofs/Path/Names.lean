import Mathlib.Tactic
import TestScaffold.Layout
import TestScaffold.Proofs.Disk.LinkFree
import TestScaffold.Proofs.Text.Cuts
import TestScaffold.Proofs.Text.Fields

/-!
The names in a path, as its spelling has them.

* `steps_append_slash` and `steps_joinTo`: the steps of a path that is put
  together are those of its parts. `partsOf_eq_filter` are the steps but the
  single dots, and `name_of_steps` is the last of them.
* `stem_append_suffix`: nothing of a name is lost when it is cut at its suffix.
  So the name of a test file is longer than that of its source
  (`length_testFileName`), and has a letter that no build file has in its name.
* `absolute_eq_pathTo`: an absolute path spells the place that its steps come
  to, after one slash or after two.
-/

namespace TestScaffold

namespace Path

/-- A name that an entry of a directory may have. -/
structure IsName (c : Text) : Prop where
  ne_nil : c ≠ []
  notMem : char '/' ∉ c
  ne_dot : c ≠ [char '.']
  ne_dots : c ≠ [char '.', char '.']

lemma isName_iff {c : Text} :
    IsName c ↔ c ≠ [] ∧ char '/' ∉ c ∧ c ≠ [char '.'] ∧ c ≠ [char '.', char '.'] :=
  ⟨fun h => ⟨h.ne_nil, h.notMem, h.ne_dot, h.ne_dots⟩, fun ⟨h₁, h₂, h₃, h₄⟩ => ⟨h₁, h₂, h₃, h₄⟩⟩

instance (c : Text) : Decidable (IsName c) := decidable_of_iff _ isName_iff.symm

end Path

namespace Disk

/-! ### Steps -/

@[simp] lemma steps_nil : steps [] = [] := by simp [steps, Text.fields]

/-- A slash parts the steps, and adds none. -/
lemma steps_append_slash (p q : Text) : steps (p ++ char '/' :: q) = steps p ++ steps q := by
  simp [steps, Text.fields_append_cons]

@[simp] lemma steps_slash (p : Text) : steps (char '/' :: p) = steps p := steps_append_slash [] p

lemma steps_of_notMem {c : Text} (hne : c ≠ []) (h : char '/' ∉ c) : steps c = [c] := by
  simp [steps, Text.fields_of_notMem h, hne]

lemma ne_nil_of_mem_steps {p c : Text} (h : c ∈ steps p) : c ≠ [] := by
  simpa using (List.mem_filter.mp h).2

lemma notMem_of_mem_steps {p c : Text} (h : c ∈ steps p) : char '/' ∉ c :=
  Text.notMem_of_mem_fields (List.mem_filter.mp h).1

/-- Names that are joined by slashes are the steps again. -/
lemma steps_join {ns : List Text} (h : ∀ c ∈ ns, c ≠ [] ∧ char '/' ∉ c) :
    steps (Text.join [char '/'] ns) = ns := by
  induction ns with
  | nil => simp [Text.join]
  | cons c ns ih =>
      obtain ⟨hne, hc⟩ := h c (by simp)
      have hrest := ih fun b hb => h b (by simp [hb])
      cases ns with
      | nil => simpa [Text.join] using steps_of_notMem hne hc
      | cons b ns =>
          have hjoin : Text.join [char '/'] (c :: b :: ns) =
              c ++ char '/' :: Text.join [char '/'] (b :: ns) := by
            simp [Text.join]
          rw [hjoin, steps_append_slash, steps_of_notMem hne hc, hrest]
          rfl

/-- A path that has no steps and is not empty begins at the root. -/
lemma head?_of_steps_eq_nil {p : Text} (hne : p ≠ []) (h : steps p = []) :
    p.head? = some (char '/') := by
  obtain ⟨c, s, rfl⟩ := List.exists_cons_of_ne_nil hne
  by_cases hc : c = char '/'
  · simp [hc]
  · obtain ⟨f, fs, hf⟩ := List.exists_cons_of_ne_nil (Text.fields_ne_nil (char '/') s)
    simp [steps, Text.fields, hc, hf] at h

/-- The steps to a file in a directory. -/
lemma steps_joinTo {dir name : Text} (hdir : dir ≠ []) (hne : name ≠ []) (hname : char '/' ∉ name) :
    steps (Path.joinTo dir name) = steps dir ++ [name] := by
  have hhead : name.head? ≠ some (char '/') := fun h => hname (List.mem_of_head? h)
  rw [Path.joinTo]
  rw [if_neg hhead]
  split
  · next h =>
      have hlast : dir.getLast? = some (char '/') := h.resolve_left hdir
      obtain ⟨p, rfl⟩ := List.getLast?_eq_some_iff.mp hlast
      have hassoc : p ++ [char '/'] ++ name = p ++ char '/' :: name := by simp
      rw [hassoc, steps_append_slash, steps_append_slash, steps_of_notMem hne hname]
      simp
  · rw [steps_append_slash, steps_of_notMem hne hname]

/-- A path to a name does not end in a slash. -/
lemma endsInSlash_joinTo {dir name : Text} (hne : name ≠ []) (hname : char '/' ∉ name) :
    endsInSlash (Path.joinTo dir name) = false := by
  have hlast : name.getLast? ≠ some (char '/') := fun h => hname (List.mem_of_getLast? h)
  have hhead : name.head? ≠ some (char '/') := fun h => hname (List.mem_of_head? h)
  rw [Path.joinTo, endsInSlash]
  rw [if_neg hhead]
  obtain ⟨c, s, rfl⟩ := List.exists_cons_of_ne_nil hne
  split <;> simpa using hlast

end Disk

namespace Path

open Disk (steps lexical stepTo origin)

/-- The seam between a directory and the name of an entry. -/
lemma joinTo_eq_append {dir name : Text} (hdir : dir ≠ []) (hname : IsName name) :
    ∃ q, joinTo dir name = dir ++ q ∧
      (q = [] ∨ q.head? = some (char '/') ∨ dir.getLast? = some (char '/')) ∧
        Disk.steps q = [name] := by
  have hsteps := Disk.steps_of_notMem hname.ne_nil hname.notMem
  have hhead : name.head? ≠ some (char '/') := fun h => hname.notMem (List.mem_of_head? h)
  rw [joinTo]
  rw [if_neg hhead]
  split
  · next h => exact ⟨name, rfl, .inr (.inr (h.resolve_left hdir)), hsteps⟩
  · exact ⟨char '/' :: name, rfl, .inr (.inl rfl), by rw [Disk.steps_slash, hsteps]⟩

/-- Joining adds nothing but slashes. -/
lemma mem_of_mem_joinTo {dir name : Text} {c : CodePoint} (h : c ∈ joinTo dir name)
    (hc : c ≠ char '/') : c ∈ dir ∨ c ∈ name := by
  rw [joinTo] at h
  split at h
  · exact .inr h
  · split at h
    · simpa using h
    · simpa [hc] using h

/-! ### Parts and names -/

/-- The parts of a path are its steps without the single dots. -/
lemma partsOf_eq_filter (p : Text) : partsOf p = (steps p).filter (· != [char '.']) := by
  simp [partsOf, steps, List.filter_filter, Bool.and_comm]

lemma notMem_of_mem_parts {p c : Text} (h : c ∈ partsOf p) : char '/' ∉ c :=
  Text.notMem_of_mem_fields (List.mem_filter.mp h).1

lemma mem_of_mem_name {p : Text} {c : CodePoint} (h : c ∈ (ofText p).name) : c ∈ p := by
  rw [name] at h
  cases hlast : (ofText p).parts.getLast? with
  | none => simp [hlast] at h
  | some f =>
      rw [hlast, Option.getD_some] at h
      exact Text.mem_of_mem_fields (List.mem_filter.mp (List.mem_of_getLast? hlast)).1 h

/-- The last name of a path has no slash in it. -/
lemma notMem_name (p : Text) : char '/' ∉ (ofText p).name := by
  rw [name]
  cases h : (ofText p).parts.getLast? with
  | none => simp
  | some c => exact notMem_of_mem_parts (List.mem_of_getLast? h)

/-- The last step of a path is its name, unless it is a single dot. -/
lemma name_of_steps {p c : Text} {before : List Text} (h : steps p = before ++ [c])
    (hc : c ≠ [char '.']) : (ofText p).name = c := by
  simp [name, ofText, partsOf_eq_filter, h, hc]

lemma IsName.name_append_slash {c : Text} (hc : IsName c) (up : Text) :
    (ofText (up ++ char '/' :: c)).name = c := by
  have hsteps : steps (up ++ char '/' :: c) = steps up ++ [c] := by
    rw [Disk.steps_append_slash, Disk.steps_of_notMem hc.ne_nil hc.notMem]
  exact name_of_steps hsteps hc.ne_dot

lemma IsName.name_eq {c : Text} (hc : IsName c) : (ofText c).name = c := by
  have hsteps : steps c = [] ++ [c] := Disk.steps_of_notMem hc.ne_nil hc.notMem
  exact name_of_steps hsteps hc.ne_dot

/-- A name is its stem and its suffix. -/
lemma stem_append_suffix (p : Path) : p.stem ++ p.suffix = p.name := by
  unfold stem suffix splitSuffix
  dsimp only
  split
  · next h =>
      rcases Text.cutLast_cases (char '.') p.name with ⟨-, hcut⟩ | ⟨a, b, heq, -, hcut⟩
      · simp [hcut] at h
      · simp only [hcut]
        exact heq.symm
  · simp

end Path

namespace Layout

/-- The name of a test is by four characters longer than that of its source, so it is
another one. -/
lemma length_testFileName (path : Text) :
    (testFileName path).length = (Path.ofText path).name.length + 4 := by
  rw [← Path.stem_append_suffix]
  have hword : "Test".toText.length = 4 := rfl
  simp only [testFileName, List.length_append, hword]
  omega

/-- All characters in the name of a test are from the name of its source or from the word
that is put in. -/
lemma mem_testFileName {path : Text} {c : CodePoint} (h : c ∈ testFileName path) :
    c ∈ (Path.ofText path).name ∨ c ∈ "Test".toText := by
  rw [← Path.stem_append_suffix]
  simp only [testFileName, List.mem_append] at h ⊢
  tauto

lemma upper_mem_testFileName (path : Text) : char 'T' ∈ testFileName path := by
  simp [testFileName]

lemma isName_testFileName (path : Text) : Path.IsName (testFileName path) where
  ne_nil h := by simpa [h] using upper_mem_testFileName path
  notMem h := by
    rcases mem_testFileName h with h | h
    · exact Path.notMem_name path h
    · simp at h
  ne_dot h := by simpa [h] using upper_mem_testFileName path
  ne_dots h := by simpa [h] using upper_mem_testFileName path

/-- What stands in the place of a test has the directory and the name that the
layout says. -/
lemma testPlace_eq_ok {path dir name : Text} (h : testPlace path = .ok (dir, name)) :
    dir ≠ [] ∧ name = testFileName path ∧
      dir = Text.replaceFirst "main".toText "test".toText
        (Text.before (Path.ofText path).name path) := by
  rw [testPlace] at h
  dsimp only at h
  split at h
  · cases h
  · split at h
    · cases h
    · next hdir =>
        cases h
        exact ⟨hdir, rfl, rfl⟩

/-- The place of a test has only characters of its source's path, apart from
those that are in it always. -/
lemma mem_of_mem_testPlace {path dir name : Text} {c : CodePoint}
    (h : testPlace path = .ok (dir, name)) (hc : c ∈ dir ∨ c ∈ name)
    (hnew : c ∉ "Test".toText) : c ∈ path := by
  obtain ⟨-, rfl, rfl⟩ := testPlace_eq_ok h
  rcases hc with hdir | hname
  · rcases Text.mem_of_mem_replaceFirst hdir with hbefore | htest
    · exact Text.mem_of_mem_before hbefore
    · -- the first letter of `test` is the last one of `Test`
      have hletters : ∀ d ∈ "test".toText, d ∈ "Test".toText := by decide
      exact absurd (hletters c htest) hnew
  · exact Path.mem_of_mem_name ((mem_testFileName hname).resolve_right hnew)

end Layout

namespace Path

open Disk (steps lexical stepTo origin)

/-! ### Absolute paths -/

/-- From the root, dots lead where they say. -/
lemma collapse_eq_lexical {up : Location} (hup : ∀ c ∈ up, c ≠ [char '.', char '.'])
    (todo : List Text) :
    collapse true up (todo.filter (· != [char '.'])) = (lexical up todo).reverse := by
  induction todo generalizing up with
  | nil => rfl
  | cons c todo ih =>
      rw [Disk.lexical_cons, stepTo]
      by_cases hdot : c = [char '.']
      · simpa [hdot] using ih hup
      have hkeep : (c :: todo).filter (· != [char '.']) = c :: todo.filter (· != [char '.']) := by
        simp [hdot]
      rw [hkeep, if_neg hdot]
      by_cases hdots : c = [char '.', char '.']
      · rw [if_pos hdots]
        cases up with
        | nil => simpa [collapse, hdots] using @ih [] (by simp)
        | cons b up =>
            have hb : b ≠ [char '.', char '.'] := hup b (by simp)
            simpa [collapse, hdots, hb] using ih fun a ha => hup a (by simp [ha])
      · rw [if_neg hdots]
        have hup' : ∀ a ∈ c :: up, a ≠ [char '.', char '.'] := by
          intro a ha
          rcases List.mem_cons.mp ha with rfl | ha
          · exact hdots
          · exact hup a ha
        simpa [collapse, hdots] using ih hup'

/-- Names are followed one below the other. -/
lemma lexical_reverse {l : Location} (h : ∀ c ∈ l, IsName c) : lexical [] l.reverse = l := by
  induction l with
  | nil => rfl
  | cons c l ih =>
      have hc := h c (by simp)
      rw [List.reverse_cons, Disk.lexical_concat hc.ne_dot hc.ne_dots,
        ih fun b hb => h b (by simp [hb])]

/-- The place of a path seen from a directory is its place from the root, after
the path of the directory. -/
lemma lexical_joinTo {here : Location} (hhere : ∀ c ∈ here, IsName c) (path : Text) :
    lexical [] (steps (joinTo (Disk.pathTo here) path)) =
      lexical (origin here path) (steps path) := by
  have hsteps : steps (Disk.pathTo here) = here.reverse := by
    rw [Disk.pathTo, Disk.steps_slash, Disk.steps_join]
    exact fun c hc => ⟨(hhere c (by simpa using hc)).ne_nil, (hhere c (by simpa using hc)).notMem⟩
  rw [joinTo, origin]
  split
  · rfl
  · split
    · next h =>
        have hlast : (Disk.pathTo here).getLast? = some (char '/') :=
          h.resolve_left (by simp [Disk.pathTo])
        obtain ⟨p, hp⟩ := List.getLast?_eq_some_iff.mp hlast
        rw [hp, Disk.steps_append_slash, Disk.steps_nil, List.append_nil] at hsteps
        have hassoc : p ++ [char '/'] ++ path = p ++ char '/' :: path := by simp
        rw [hp, hassoc, Disk.steps_append_slash, hsteps, Disk.lexical_append, lexical_reverse hhere]
    · rw [Disk.steps_append_slash, hsteps, Disk.lexical_append, lexical_reverse hhere]

/-- A path that begins with slashes counts as one that begins with one or with two. -/
lemma leadingSlashes_of_head {s : Text} (h : s.head? = some (char '/')) :
    leadingSlashes s = 1 ∨ leadingSlashes s = 2 := by
  obtain ⟨t, rfl⟩ : ∃ t, s = char '/' :: t := by
    cases s with
    | nil => simp at h
    | cons c t => exact ⟨t, by simpa using h⟩
  unfold leadingSlashes
  split <;> simp_all

lemma head?_joinTo_pathTo (here : Location) (path : Text) :
    (joinTo (Disk.pathTo here) path).head? = some (char '/') := by
  rw [joinTo]
  split
  · assumption
  · split <;> simp [Disk.pathTo]

/-- An absolute path has the slashes of its spelling, and then the place that its
steps come to. -/
lemma absolute_eq_append {here : Location} (hhere : ∀ c ∈ here, IsName c) (path : Text) :
    absolute (Disk.pathTo here) path =
      List.replicate (leadingSlashes (joinTo (Disk.pathTo here) path)) (char '/') ++
        Text.join [char '/'] (lexical (origin here path) (steps path)).reverse := by
  have hparts : collapse true [] (partsOf (joinTo (Disk.pathTo here) path)) =
      (lexical (origin here path) (steps path)).reverse := by
    rw [partsOf_eq_filter, collapse_eq_lexical (by simp), lexical_joinTo hhere]
  have hne : leadingSlashes (joinTo (Disk.pathTo here) path) ≠ 0 := by
    rcases leadingSlashes_of_head (head?_joinTo_pathTo here path) with h | h <;> simp [h]
  have hrooted : (leadingSlashes (joinTo (Disk.pathTo here) path) != 0) = true := by simpa using hne
  simp [absolute, ofText, toText, hne, hrooted, hparts]

/-- **An absolute path spells the place that its steps come to.** It keeps two
slashes at its beginning. -/
theorem absolute_eq_pathTo {here : Location} (hhere : ∀ c ∈ here, IsName c) (path : Text) :
    absolute (Disk.pathTo here) path = Disk.pathTo (lexical (origin here path) (steps path)) ∨
      absolute (Disk.pathTo here) path =
        char '/' :: Disk.pathTo (lexical (origin here path) (steps path)) := by
  rw [absolute_eq_append hhere]
  rcases leadingSlashes_of_head (head?_joinTo_pathTo here path) with h | h
  · exact .inl (by rw [h]; rfl)
  · exact .inr (by rw [h]; rfl)

end Path

end TestScaffold
