import TestScaffold.Proofs.Path.Parts

/-!
What is missing of a path for which directories are made.

* `Path.parting` is the cut before the last part of a path, and `LacksParents`
  says that so many of the paths before it, one inside the other, lead to
  nothing.
* `makeDirs_of_lacks` and `makeDirs_failure`: making directories is
  given up **exactly if more of them are missing than the depth allows**, and
  then none is made.
* `exists_of_beginning`: where a path leads to something, all its beginnings do.
  So nothing is made for a path that leads to a directory (`makeDirs_of_dir`).
* `lacksParents_dots`: a path that goes on with dots from where nothing is lacks
  as many directories as it has dots.
-/

namespace TestScaffold

namespace Path

/-- A path cut before its last part, where slashes at its end do not count. -/
def parting (path : Text) : Text × Text :=
  if (splitLast path).2 = [] then splitLast (splitLast path).1 else splitLast path

lemma beginning_parting {path : Text} (hne : (parting path).1 ≠ []) :
    Beginning (parting path).1 path := beginning_cut hne

lemma splitLast_append {p c : Text} (hp : p ≠ []) (hlast : p.getLast? ≠ some (char '/'))
    (hc : char '/' ∉ c) :
    splitLast (p ++ char '/' :: c) = (p, c) := by
  have htail : ((p ++ char '/' :: c).reverse.takeWhile (· != char '/')).reverse = c := by
    rw [Text.takeWhile_reverse_append_cons p hc, List.reverse_reverse]
  have hlen : (p ++ char '/' :: c).length - c.length = (p ++ [char '/']).length := by
    simp only [List.length_append, List.length_cons, List.length_nil]
    omega
  have hhead : (p ++ char '/' :: c).take (p ++ [char '/']).length = p ++ [char '/'] := by
    have hassoc : p ++ char '/' :: c = (p ++ [char '/']) ++ c := by simp
    rw [hassoc, List.take_left]
  obtain ⟨q, b, rfl⟩ := List.eq_nil_or_concat p |>.resolve_left hp
  have hb : b ≠ char '/' := by simpa using hlast
  simp only [splitLast, htail, hlen, hhead]
  simp [hb]

/-- Slashes at the end of a path do not count. -/
lemma parting_append {p c : Text} (hp : p ≠ []) (hlast : p.getLast? ≠ some (char '/'))
    (hne : c ≠ []) (hc : char '/' ∉ c) :
    parting (p ++ char '/' :: c) = (p, c) ∧
      parting (p ++ char '/' :: c ++ [char '/']) = (p, c) := by
  have hlast' : (p ++ char '/' :: c).getLast? ≠ some (char '/') := by
    rw [List.getLast?_append_of_ne_nil _ (by simp), List.getLast?_cons_of_ne_nil hne]
    exact fun h => hc (List.mem_of_getLast? h)
  refine ⟨?_, ?_⟩
  · rw [parting, splitLast_append hp hlast hc, if_neg hne]
  · rw [parting, splitLast_append (by simp) hlast' (by simp), if_pos rfl,
      splitLast_append hp hlast hc]

end Path

namespace Disk

variable {d d' : Disk} {here l : Location} {path p : Text} {n : Node} {depth : ℕ}

/-! ### Missing directories -/

/-- There is something before the last part of the path, and that leads to
nothing. -/
def LacksParent (d : Disk) (here : Location) (path : Text) : Prop :=
  (Path.parting path).1 ≠ [] ∧ (Path.parting path).2 ≠ [] ∧
    d.exists? here (Path.parting path).1 = false

/-- So many paths, each before the last part of the one before, lead to
nothing. -/
def LacksParents (d : Disk) (here : Location) : ℕ → Text → Prop
  | 0, _ => True
  | depth + 1, path => d.LacksParent here path ∧ d.LacksParents here depth (Path.parting path).1

/-- The last step of making directories: the one at the end of the path. -/
def makeLast (d : Disk) (here : Location) (path : Text) : Except AccessError Unit × Disk :=
  match d.ensureDir here path with
  | .ok d' => (.ok (), d')
  | .error e => (.error e, d)

/-- What is left to do after the paths before the last part. -/
def makeRest (d : Disk) (here : Location) (path : Text) : Except AccessError Unit × Disk :=
  if (Path.parting path).2 = [char '.'] then (.ok (), d) else d.makeLast here path

lemma makeDirs_succ (d : Disk) (here : Location) (depth : ℕ) (path : Text) :
    d.makeDirs here (depth + 1) path =
      if (Path.parting path).1 ≠ [] ∧ (Path.parting path).2 ≠ [] ∧
          !d.exists? here (Path.parting path).1 then
        match d.makeDirs here depth (Path.parting path).1 with
        | (.error e, d') =>
          match e with
          | .system ⟨.exists, _⟩ => d'.makeRest here path
          | _ => (.error e, d')
        | (.ok (), d') => d'.makeRest here path
      else d.makeLast here path := rfl

lemma makeDirs_of_exists (h : ¬d.LacksParent here path) :
    d.makeDirs here (depth + 1) path = d.makeLast here path := by
  rw [makeDirs_succ]
  refine if_neg fun hmissing => h ⟨hmissing.1, hmissing.2.1, ?_⟩
  exact (Bool.not_eq_true' _).mp hmissing.2.2

/-- What is before the last part is made first, and if that fails for want of
depth, so does the whole. -/
lemma makeDirs_of_lacksParent (depth : ℕ) (h : d.LacksParent here path) :
    ∃ r d', d.makeDirs here depth (Path.parting path).1 = (r, d') ∧
      ((∃ e, r = .error e ∧ d.makeDirs here (depth + 1) path = (.error e, d')) ∨
        (r ≠ .error .tooDeep ∧
          d.makeDirs here (depth + 1) path = d'.makeRest here path)) := by
  rw [makeDirs_succ, if_pos ⟨h.1, h.2.1, by simp [h.2.2]⟩]
  rcases d.makeDirs here depth (Path.parting path).1 with ⟨e | u, d'⟩
  · refine ⟨_, d', rfl, ?_⟩
    dsimp only
    split
    · exact .inr ⟨by simp, rfl⟩
    · exact .inl ⟨e, rfl, rfl⟩
  · exact ⟨_, d', rfl, .inr ⟨by simp, rfl⟩⟩

/-- Where too many are missing, nothing is made. -/
theorem makeDirs_of_lacks (h : d.LacksParents here depth path) :
    d.makeDirs here depth path = (.error .tooDeep, d) := by
  induction depth generalizing path with
  | zero => rfl
  | succ depth ih =>
      obtain ⟨r, d', hmake, ⟨e, rfl, hwhole⟩ | ⟨hdeep, -⟩⟩ :=
        makeDirs_of_lacksParent depth h.1
      · rw [hwhole, ← hmake, ih h.2]
      · rw [ih h.2] at hmake
        exact absurd (Prod.mk.inj hmake).1.symm hdeep

lemma makeLast_failure (hpath : path.isPath) {e : AccessError}
    (h : (d.makeLast here path).1 = .error e) : ∃ e', e = .system e' := by
  rw [makeLast] at h
  split at h
  · cases h
  · next hensure =>
      cases h
      exact exists_system_of_ensureDir hpath hensure

lemma makeRest_failure (hpath : path.isPath) {e : AccessError}
    (h : (d.makeRest here path).1 = .error e) : ∃ e', e = .system e' := by
  rw [makeRest] at h
  split at h
  · cases h
  · exact makeLast_failure hpath h

/-- **Making directories fails because the system refuses it, or because too
many are missing.** -/
theorem makeDirs_failure (hpath : path.isPath) {e : AccessError}
    (h : (d.makeDirs here depth path).1 = .error e) :
    (∃ e', e = .system e') ∨ d.LacksParents here depth path := by
  induction depth generalizing path e with
  | zero => exact .inr trivial
  | succ depth ih =>
      by_cases hparent : d.LacksParent here path
      · obtain ⟨r, d', hmake, ⟨e', rfl, hwhole⟩ | ⟨-, hwhole⟩⟩ :=
          makeDirs_of_lacksParent depth hparent
        · obtain rfl : e' = e := by simpa [hwhole] using h
          have hpath' := (Path.beginning_parting hparent.1).isPath hpath
          rcases ih hpath' (by rw [hmake]) with hsystem | hlacks
          · exact .inl hsystem
          · exact .inr ⟨hparent, hlacks⟩
        · rw [hwhole] at h
          exact .inl (makeRest_failure hpath h)
      · rw [makeDirs_of_exists hparent] at h
        exact .inl (makeLast_failure hpath h)

/-! ### What is there already -/

/-- A text leads to something if it can be a path and is resolved to a node. -/
lemma exists?_iff :
    d.exists? here path ↔
      path.isPath ∧ ∃ l n, d.resolve here path .content = .ok (.found l n) := by
  rw [exists?, stat]
  rcases d.resolve here path .content with e | ⟨l, n⟩ | ⟨l, c⟩
  · simp [Except.isOk, Except.toBool]
  · simp [Except.isOk, Except.toBool]
  · simp [Except.isOk, Except.toBool]

lemma endsInSlash_of_steps_eq_nil {q : Text} (hne : q ≠ []) (h : steps q = []) :
    q.getLast? = some (char '/') := by
  induction q with
  | nil => contradiction
  | cons c q ih =>
      obtain rfl : c = char '/' := by simpa using head?_of_steps_eq_nil hne h
      by_cases hq : q = []
      · simp [hq]
      · rw [List.getLast?_cons_of_ne_nil hq]
        exact ih hq (by simpa using h)

/-- Only a walk for a file asks whether its path ends in a slash. -/
lemma stride_content_slash (slash slash' : Bool) (l : Location) (todo : List Text) :
    d.stride .content slash l todo = d.stride .content slash' l todo := by
  fun_induction stride d .content slash l todo <;> simp_all [stride]

/-- A walk that goes on has come to a directory so far. -/
lemma dir_of_stride_append {slash : Bool} (slash' : Bool) {l' : Location} {todo rest : List Text}
    (hrest : rest ≠ []) (h : d.stride .content slash l (todo ++ rest) = .arrived (.found l' n)) :
    ∃ k, d.stride .content slash' l todo = .arrived (.found k .dir) := by
  -- by induction on what comes first; each case of the walk but the last name goes on with less
  induction todo generalizing l with
  | nil =>
      obtain ⟨c, rest, rfl⟩ := List.exists_cons_of_ne_nil hrest
      have hdir : d.get? l = some .dir := by
        by_contra hl
        rw [List.nil_append, stride, if_pos hl] at h
        cases h
      exact ⟨l, by simp [stride, hdir]⟩
  | cons c todo ih =>
      rw [List.cons_append, stride] at h
      split at h
      · cases h
      next hl =>
      split at h
      · next hdot =>
          obtain ⟨k, hk⟩ := ih h
          exact ⟨k, by simpa [stride, not_not.mp hl, hdot] using hk⟩
      next hdot =>
      split at h
      · next hdots =>
          obtain ⟨k, hk⟩ := ih h
          exact ⟨k, by simpa [stride, not_not.mp hl, hdots] using hk⟩
      next hdots =>
      split at h
      · cases h
      split at h
      · cases h
      next hlong =>
      split at h
      · simp [hrest] at h
      · simp [hrest] at h
      · next n₀ hlink hn₀ =>
          rw [stride_into (not_not.mp hl) hdot hdots (by simp) hlong hn₀ hlink]
          exact ih h

lemma origin_append (here : Location) (hp : p ≠ []) (q : Text) :
    origin here (p ++ q) = origin here p := by
  rw [origin, origin, List.head?_append_of_ne_nil _ hp]

lemma short_of_append {q : Text} (h : ¬(Utf8.encode (p ++ q)).length ≥ pathMax) :
    ¬(Utf8.encode p).length ≥ pathMax := by
  simp only [Utf8.encode, List.flatMap_append, List.length_append] at h ⊢
  omega

/-- What is before further parts of a path that leads to something is a
directory. -/
lemma dir_of_append {q : Text} (hd : d.LinkFree) (hp : p ≠ [])
    (hseam : q = [] ∨ q.head? = some (char '/') ∨ p.getLast? = some (char '/'))
    (hrest : steps q ≠ [])
    (h : d.resolve here (p ++ q) .content = .ok (.found l n)) :
    ∃ k, d.resolve here p .content = .ok (.found k .dir) := by
  obtain ⟨-, hlong, hstride, -⟩ := (resolve_eq_ok_iff hd).mp h
  rw [origin_append here hp, steps_append_of_seam hseam] at hstride
  obtain ⟨k, hk⟩ := dir_of_stride_append (endsInSlash p) hrest hstride
  refine ⟨k, (resolve_eq_ok_iff hd).mpr ⟨hp, short_of_append hlong, hk, fun k' m hkm _ _ => ?_⟩⟩
  exact (Spot.found.inj hkm).2.symm

/-- **All beginnings of a path that leads to something do so, too.** -/
theorem exists_of_beginning (hd : d.LinkFree) (hp : p ≠ []) (hbegin : Path.Beginning p path)
    (h : d.resolve here path .content = .ok (.found l n)) :
    ∃ k m, d.resolve here p .content = .ok (.found k m) := by
  obtain ⟨q, rfl, hseam⟩ := hbegin
  by_cases hrest : steps q = []
  · obtain ⟨-, hlong, hstride, hdir⟩ := (resolve_eq_ok_iff hd).mp h
    rw [origin_append here hp, steps_append_of_seam hseam, hrest, List.append_nil,
      stride_content_slash _ (endsInSlash p)] at hstride
    refine ⟨l, n, (resolve_eq_ok_iff hd).mpr
      ⟨hp, short_of_append hlong, hstride, fun k m hkm hslash hc => hdir k m hkm ?_ hc⟩⟩
    by_cases hq : q = []
    · simpa [hq] using hslash
    · simp [endsInSlash, List.getLast?_append_of_ne_nil _ hq, endsInSlash_of_steps_eq_nil hq hrest]
  · obtain ⟨k, hk⟩ := dir_of_append hd hp hseam hrest h
    exact ⟨k, .dir, hk⟩

/-- Without links an entry is what is there. -/
lemma stride_entry_eq_content (hd : d.LinkFree) (slash : Bool) (l : Location)
    (todo : List Text) : d.stride .entry slash l todo = d.stride .content slash l todo := by
  fun_induction stride d .entry slash l todo with
  | case10 l c rest hl hdot hdots hfile hlong t ht hend => exact absurd ht (hd _ t)
  | _ => simp_all [stride]

lemma resolve_entry_of_content (hd : d.LinkFree)
    (h : d.resolve here path .content = .ok (.found l n)) :
    d.resolve here path .entry = .ok (.found l n) := by
  obtain ⟨hne, hlong, hstride, -⟩ := (resolve_eq_ok_iff hd).mp h
  rw [← stride_entry_eq_content hd] at hstride
  exact (resolve_eq_ok_iff hd).mpr ⟨hne, hlong, hstride, by simp⟩

/-- **Nothing is made for a path that leads to a directory.** -/
theorem makeDirs_of_dir (hd : d.LinkFree) (hpath : path.isPath)
    (h : d.resolve here path .content = .ok (.found l .dir)) :
    d.makeDirs here (depth + 1) path = (.ok (), d) := by
  have hparent : ¬d.LacksParent here path := by
    rintro ⟨hne, -, hmissing⟩
    have hbegin := Path.beginning_parting hne
    have hexists := exists?_iff.mpr ⟨hbegin.isPath hpath, exists_of_beginning hd hne hbegin h⟩
    rw [hmissing] at hexists
    cases hexists
  have hmake : d.makeDir here path = .error (.at path .exists) := by
    simp [makeDir, hpath, resolve_entry_of_content hd h]
  have hisDir : d.isDir here path = true := by simp [isDir, stat, hpath, h]
  rw [makeDirs_of_exists hparent, makeLast, ensureDir, hmake]
  simp [AccessError.at, hisDir]

/-! ### Dots -/

/-- So many dots after a path, each of which leads to where the path leads. -/
def dots (n : ℕ) : Text := (List.replicate n "/.".toText).flatten

lemma append_dots_succ (p : Text) (n : ℕ) :
    p ++ dots (n + 1) = p ++ dots n ++ char '/' :: [char '.'] := by
  simp [dots, List.replicate_succ']

lemma getLast?_append_dots (hp : p.getLast? ≠ some (char '/')) (n : ℕ) :
    (p ++ dots n).getLast? ≠ some (char '/') := by
  cases n with
  | zero => simpa [dots] using hp
  | succ n =>
      rw [append_dots_succ, List.getLast?_append_of_ne_nil _ (by simp)]
      decide

lemma not_exists_append_dots (hd : d.LinkFree) (hp : p ≠ []) (h : d.exists? here p = false)
    (n : ℕ) : d.exists? here (p ++ dots n) = false := by
  by_contra hexists
  obtain ⟨hpath, l, m, hres⟩ := exists?_iff.mp (Bool.not_eq_false _ ▸ hexists)
  have hbegin : Path.Beginning p (p ++ dots n) := by
    refine ⟨dots n, rfl, ?_⟩
    cases n with
    | zero => exact .inl rfl
    | succ n => exact .inr (.inl rfl)
  have hp' := exists?_iff.mpr ⟨hbegin.isPath hpath, exists_of_beginning hd hp hbegin hres⟩
  rw [h] at hp'
  cases hp'

/-- Each dot after a path that leads to nothing is one more directory that is
missing, also with a slash after the last one. -/
theorem lacksParents_dots (hd : d.LinkFree) (hp : p ≠ []) (hlast : p.getLast? ≠ some (char '/'))
    (hmissing : d.exists? here p = false) {n m : ℕ} (hnm : n ≤ m) :
    d.LacksParents here n (p ++ dots m) ∧ d.LacksParents here n (p ++ dots m ++ [char '/']) := by
  induction n generalizing m with
  | zero => exact ⟨trivial, trivial⟩
  | succ n ih =>
      obtain ⟨m, rfl⟩ : ∃ k, m = k + 1 := ⟨m - 1, by omega⟩
      have hne : p ++ dots m ≠ [] := by simp [hp]
      have hcut := Path.parting_append (c := [char '.']) hne (getLast?_append_dots hlast m)
        (by simp) (by simp)
      have hup := not_exists_append_dots hd hp hmissing m
      have hrest := (ih (m := m) (by omega)).1
      rw [append_dots_succ]
      refine ⟨⟨?_, ?_⟩, ⟨?_, ?_⟩⟩
      · rw [LacksParent, hcut.1]
        exact ⟨hne, by simp, hup⟩
      · rw [hcut.1]
        exact hrest
      · rw [LacksParent, hcut.2]
        exact ⟨hne, by simp, hup⟩
      · rw [hcut.2]
        exact hrest

end Disk

end TestScaffold
