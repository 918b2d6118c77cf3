import TestScaffold.Proofs.Disk.Adding

/-!
Directories that are looked for and made, on disks with links.

* `errno_of_stat`: a path that leads nowhere does so in one of four ways. Only a name or a
  path that is too long is reported where directories are looked for
  (`isDirStrict_of_tooLong`, `isDirStrict_of_not_tooLong`).
* `walk_append`: links are followed in the same way whatever a path goes on with, so what is
  in a directory is found from the directory (`resolve_child`).
* `resolve_put_dir`: a path to a free name leads to the directory that is made there. So there
  is a directory wherever one was asked for and the system did not refuse
  (`isDir_of_ensureDirStrict`, `isDir_of_makePath`).
* `ensureDirStrict_child`: **what comes of a directory that is asked for in another one.**
-/

namespace TestScaffold.Disk

variable {d d' : Disk} {aim : Aim} {slash : Bool} {here l m : Location} {c path : Text}
  {todo rest : List Text}

/-! ### Paths that lead nowhere -/

/-- The system refuses to look along the path: a name on it, or in the target of a link that it
leads through, is too long, or it is too long itself. -/
def TooLong (d : Disk) (here : Location) (path : Text) : Prop :=
  d.stat here path = .error .nameTooLong

/-- A stride that does not want a file is refused for one of these reasons. -/
lemma errno_of_stride {e : Errno} (haim : aim ≠ .file)
    (h : d.stride aim slash l todo = .blocked e) : e ∈ [.noEntry, .notDirectory, .nameTooLong] := by
  fun_induction stride d aim slash l todo with
  | case4 l rest hl ih => exact ih h
  | case5 l rest hl hdot ih => exact ih h
  | case6 l c rest hl hdot hdots hfile => exact absurd hfile.2.1 haim
  | case12 l c rest hl hdot hdots hfile hlong n hlink hn ih => exact ih h
  | _ => simp_all

lemma errno_of_walk {budget : ℕ} {e : Errno} (haim : aim ≠ .file)
    (h : d.walk aim budget slash l todo = .error e) :
    e ∈ [.noEntry, .notDirectory, .tooManyLinks, .nameTooLong] := by
  fun_induction walk d aim budget slash l todo with
  | case4 budget slash l todo e' hstride =>
      obtain rfl := Except.error.inj h
      have hmem := errno_of_stride haim hstride
      simp only [List.mem_cons, List.not_mem_nil, or_false] at hmem ⊢
      tauto
  | case6 slash l todo l' t rest hstride budget ih => exact ih h
  | _ => simp_all

/-- **The ways in which a path leads nowhere.** -/
lemma errno_of_stat {e : Errno} (h : d.stat here path = .error e) :
    e ∈ [.noEntry, .notDirectory, .tooManyLinks, .nameTooLong] := by
  rw [stat] at h
  cases hres : d.resolve here path .content with
  | error e' =>
      simp only [hres, Except.error.injEq] at h
      subst h
      rw [resolve] at hres
      split at hres
      · simp_all
      split at hres
      · simp_all
      · exact errno_of_walk (by decide) hres
  | ok spot => cases spot <;> simp_all

lemma isDirStrict_of_tooLong (hpath : path.isPath) (h : d.TooLong here path) :
    d.isDirStrict here path = .error (.at path .nameTooLong) := by
  rw [isDirStrict, if_neg (not_not_intro hpath), h]

/-- The strict question has the answer of the lenient one, unless a name is too long. -/
lemma isDirStrict_of_not_tooLong (h : ¬d.TooLong here path) :
    d.isDirStrict here path = .ok (d.isDir here path) := by
  rw [isDirStrict, isDir]
  by_cases hpath : path.isPath
  swap
  · simp [hpath]
  · rw [if_neg (not_not_intro hpath)]
    cases hstat : d.stat here path with
    | ok n => cases n <;> simp [hpath]
    | error e =>
        have hmem := errno_of_stat hstat
        rw [TooLong, hstat, Except.error.injEq] at h
        simp only [List.mem_cons, List.not_mem_nil, or_false, h] at hmem
        rcases hmem with rfl | rfl | rfl <;> simp

lemma isDirStrict_of_isDir (h : d.isDir here path) : d.isDirStrict here path = .ok true := by
  obtain ⟨hpath, l, hres⟩ := isDir_iff.mp h
  have hstat : d.stat here path = .ok .dir := by rw [stat, hres]
  simp [isDirStrict, hpath, hstat]

lemma isDir_of_isDirStrict (h : d.isDirStrict here path = .ok true) : d.isDir here path := by
  by_cases hpath : path.isPath
  swap
  · rw [isDirStrict, if_pos hpath] at h
    cases h
  · by_cases hlong : d.TooLong here path
    · rw [isDirStrict_of_tooLong hpath hlong] at h
      cases h
    · rw [isDirStrict_of_not_tooLong hlong] at h
      exact Except.ok.inj h

/-! ### Paths that go on -/

/-- Beyond a directory a stride goes on with what is left. -/
lemma stride_append (hrest : rest ≠ [])
    (h : d.stride aim slash l todo = .arrived (.found m .dir)) (aim' : Aim) (slash' : Bool) :
    d.stride aim' slash' l (todo ++ rest) = d.stride aim' slash' m rest := by
  fun_induction stride d aim slash l todo with
  | case1 l n₀ hn₀ => simp_all
  | case4 l todo hl ih => simpa [stride, not_not.mp hl] using ih h
  | case5 l todo hl hdot ih => simpa [stride, not_not.mp hl] using ih h
  | case12 l c todo hl hdot hdots hfile hlong n₀ hlink hn₀ ih =>
      rw [List.cons_append, stride_into (not_not.mp hl) hdot hdots (by simp [hrest]) hlong hn₀
        (fun t ht => hlink t ht), ih h]
  | _ => simp at h

/-- A link is followed whatever comes after it. -/
lemma stride_append_link {t : Text} {more : List Text} {aim' : Aim}
    (hgo : rest ≠ [] ∨ aim' = .content)
    (h : d.stride aim slash l todo = .link m t more) (slash' : Bool) :
    d.stride aim' slash' l (todo ++ rest) = .link m t (more ++ rest) := by
  have hgo' : ∀ (todo : List Text) (aim₀ : Aim), aim₀ ≠ .content →
      ¬(todo ++ rest = [] ∧ aim' = aim₀) := by
    rintro todo aim₀ haim ⟨hnil, rfl⟩
    rcases hgo with hgo | rfl
    · exact hgo (List.append_eq_nil_iff.mp hnil).2
    · exact haim rfl
  have hfile' : ∀ todo : List Text, ¬(todo ++ rest = [] ∧ aim' = .file ∧ slash') :=
    fun todo h => hgo' todo .file (by decide) ⟨h.1, h.2.1⟩
  fun_induction stride d aim slash l todo with
  | case4 l todo hl ih => simpa [stride, not_not.mp hl] using ih h
  | case5 l todo hl hdot ih => simpa [stride, not_not.mp hl] using ih h
  | case11 l c todo hl hdot hdots hfile hlong t₀ ht hend =>
      obtain ⟨rfl, rfl, rfl⟩ : l = m ∧ t₀ = t ∧ todo = more := by simpa using h
      rw [List.cons_append, stride, if_neg hl, if_neg hdot, if_neg hdots, if_neg (hfile' todo),
        if_neg hlong, ht]
      exact if_neg (hgo' todo .entry (by decide))
  | case12 l c todo hl hdot hdots hfile hlong n₀ hlink hn₀ ih =>
      rw [List.cons_append, stride_into (not_not.mp hl) hdot hdots (hfile' todo) hlong hn₀
        (fun t ht => hlink t ht), ih h]
  | _ => simp at h

/-- **What comes after a directory is looked for in it.** -/
theorem walk_append {budget : ℕ} (hrest : rest ≠ [])
    (h : d.walk aim budget slash l todo = .ok (.found m .dir)) (aim' : Aim) (slash' : Bool) :
    ∃ budget', d.walk aim' budget slash' l (todo ++ rest) = d.walk aim' budget' slash' m rest := by
  fun_induction walk d aim budget slash l todo with
  | case2 budget slash l todo l₀ n₀ hstride hdir =>
      obtain ⟨rfl, rfl⟩ : l₀ = m ∧ n₀ = .dir := by simpa using h
      refine ⟨budget, ?_⟩
      rw [walk, stride_append hrest hstride, walk.eq_def d aim' budget slash' l₀ rest]
  | case6 slash l todo l₀ t more hstride budget ih =>
      obtain ⟨budget', hwalk⟩ := ih h
      refine ⟨budget', ?_⟩
      rw [walk, stride_append_link (.inl hrest) hstride]
      have hmore : more ++ rest ≠ [] := by simp [hrest]
      simpa [hmore] using hwalk
  | _ => simp_all

/-! ### Entries of a directory -/

/-- One name more, which is not there, is what is missing. -/
lemma stride_vacant (hl : d.get? l = some .dir) (hc : Path.IsName c)
    (hshort : (Utf8.encode c).length ≤ nameMax) (haim : aim ≠ .file)
    (hfree : d.get? (c :: l) = none) : d.stride aim slash l [c] = .arrived (.vacant l c) := by
  rw [stride, if_neg (by simp [hl]), if_neg hc.ne_dot, if_neg hc.ne_dots, if_neg (by simp [haim]),
    if_neg (not_lt.mpr hshort), hfree]
  rfl

lemma stride_entry {n : Node} (hl : d.get? l = some .dir) (hc : Path.IsName c)
    (hshort : (Utf8.encode c).length ≤ nameMax) (hn : d.get? (c :: l) = some n) :
    d.stride .entry slash l [c] = .arrived (.found (c :: l) n) := by
  rw [stride, if_neg (by simp [hl]), if_neg hc.ne_dot, if_neg hc.ne_dots, if_neg (by simp),
    if_neg (not_lt.mpr hshort), hn]
  cases n <;> simp [stride, hn]

/-- The second path goes on from the first one by a name. -/
structure GoesOn (here : Location) (path next c : Text) : Prop where
  ne_nil : next ≠ []
  steps : steps next = steps path ++ [c]
  origin : origin here next = origin here path
  isName : Path.IsName c
  short : (Utf8.encode c).length ≤ nameMax

/-- What a path comes to that goes on from a directory: it may be too long as a whole, or there
is nothing of the name, or there is. -/
lemma resolve_child {next : Text} (hnext : GoesOn here path next c)
    (h : d.resolve here path .content = .ok (.found m .dir)) :
    (∀ aim, d.resolve here next aim = .error .nameTooLong) ∨
      (∀ aim ≠ .file, d.resolve here next aim = .ok (.vacant m c)) ∨
      ∃ n, d.resolve here next .entry = .ok (.found (c :: m) n) := by
  by_cases hlong : (Utf8.encode next).length ≥ pathMax
  · exact .inl fun aim => by rw [resolve, if_neg hnext.ne_nil, if_pos hlong]
  have hdir := get?_of_resolve_found h
  rw [resolve] at h
  split at h
  · cases h
  split at h
  · cases h
  have hwalk : ∀ aim, ∃ budget slash,
      d.resolve here next aim = d.walk aim budget slash m [c] := by
    intro aim
    obtain ⟨budget, hwalk⟩ := walk_append (List.cons_ne_nil c []) h aim (endsInSlash next)
    refine ⟨budget, endsInSlash next, ?_⟩
    rw [resolve, if_neg hnext.ne_nil, if_neg hlong, hnext.steps, hnext.origin, hwalk]
  refine .inr ?_
  cases hget : d.get? (c :: m) with
  | none =>
      refine .inl fun aim haim => ?_
      obtain ⟨budget, slash, hres⟩ := hwalk aim
      rw [hres, walk, stride_vacant hdir hnext.isName hnext.short haim hget]
  | some n =>
      refine .inr ⟨n, ?_⟩
      obtain ⟨budget, slash, hres⟩ := hwalk .entry
      rw [hres, walk, stride_entry hdir hnext.isName hnext.short hget]
      simp

/-! ### Directories that were made -/

/-- A walk to a free name comes to the directory that is put there. -/
lemma walk_put_dir {budget : ℕ} (hfree : d.get? (c :: m) = none)
    (h : d.walk .entry budget slash l todo = .ok (.vacant m c)) :
    (d.put (c :: m) .dir).walk .content budget slash l todo = .ok (.found (c :: m) .dir) := by
  have hg : Grows d (d.put (c :: m) .dir) := Grows.put (by simp) (by simp [hfree])
  generalize Aim.entry = aim at h
  fun_induction walk d aim budget slash l todo with
  | case3 budget slash l todo spot hne hstride =>
      obtain rfl : spot = .vacant m c := by simpa using h
      rw [walk, stride_put_of_vacant (by simp) hstride]
      simp
  | case6 slash l todo l₀ t more hstride budget ih =>
      have hlink : d.stride .content slash l (todo ++ []) = .link l₀ t (more ++ []) :=
        stride_append_link (.inr rfl) hstride slash
      rw [List.append_nil, List.append_nil] at hlink
      rw [walk, stride_link_of_grows hg hlink]
      exact ih h
  | _ => simp_all

/-- **A path to a free name leads to the directory that is made there.** -/
theorem resolve_put_dir (h : d.resolve here path .entry = .ok (.vacant m c)) :
    (d.put (c :: m) .dir).resolve here path .content = .ok (.found (c :: m) .dir) := by
  have hfree := (free_of_resolve h).1
  rw [resolve] at h ⊢
  split at h
  · cases h
  · split at h
    · cases h
    · next hne hlong =>
        rw [if_neg hne, if_neg hlong]
        exact walk_put_dir hfree h

/-- A directory is made where one name is missing. -/
lemma makeDir_eq_ok (h : d.makeDir here path = .ok d') :
    path.isPath ∧ ∃ m c, d.resolve here path .entry = .ok (.vacant m c) ∧
      d' = d.put (c :: m) .dir := by
  rw [makeDir] at h
  split at h
  · cases h
  · next hpath =>
      split at h
      · cases h
      · cases h
      · next m c hres => exact ⟨by simpa using hpath, m, c, hres, (Except.ok.inj h).symm⟩

lemma isDir_of_makeDir (h : d.makeDir here path = .ok d') : d'.isDir here path := by
  obtain ⟨hpath, m, c, hres, rfl⟩ := makeDir_eq_ok h
  exact isDir_iff.mpr ⟨hpath, _, resolve_put_dir hres⟩

/-- **There is a directory where one was asked for.** -/
theorem isDir_of_ensureDirStrict (h : d.ensureDirStrict here path = .ok d') :
    d'.isDir here path := by
  rw [ensureDirStrict] at h
  split at h
  · next d₁ hmake =>
      obtain rfl := Except.ok.inj h
      exact isDir_of_makeDir hmake
  · cases h
  · split at h
    · next hdir =>
        obtain rfl := Except.ok.inj h
        exact isDir_of_isDirStrict hdir
    · cases h
    · cases h

/-- So it is when all directories on the way are made, by induction on their number. -/
lemma isDir_of_makeParts {slashes depth : ℕ} {parts : List Text}
    (h : d.makeParts here slashes depth parts = (.ok (), d')) :
    d'.isDir here (Path.toText ⟨slashes, parts.reverse⟩) := by
  have hlast : ∀ {d₁ d₂ : Disk} {path : Text}, d₁.ensureDirStrict here path = .ok d₂ →
      ((.ok (), d₂) : Except AccessError Unit × Disk) = (.ok (), d') → d'.isDir here path := by
    intro d₁ d₂ path hmade h
    obtain rfl := (Prod.mk.inj h).2
    exact isDir_of_ensureDirStrict hmade
  cases depth with
  | zero => cases (Prod.mk.inj h).1
  | succ depth =>
      cases parts with
      | nil =>
          rw [makeParts] at h
          split at h
          · next hmade => exact hlast hmade h
          · cases (Prod.mk.inj h).1
      | cons c up =>
          rw [makeParts] at h
          split at h
          · split at h
            · cases (Prod.mk.inj h).1
            · split at h
              · next hmade => exact hlast hmade h
              · cases (Prod.mk.inj h).1
          · split at h
            · next hmade => exact hlast hmade h
            · cases (Prod.mk.inj h).1

/-- **There are directories where a path asked for them.** -/
theorem isDir_of_makePath {room : ℕ} {p : Path} (h : d.makePath here room p = (.ok (), d')) :
    d'.isDir here p.toText := by
  have hdir := isDir_of_makeParts h
  rwa [List.reverse_reverse] at hdir

/-! ### A directory in another one -/

/-- What stands at the end of the path is no directory, and does not link to one. -/
def Bars (d : Disk) (here : Location) (path : Text) : Prop :=
  (∃ l n, d.resolve here path .entry = .ok (.found l n)) ∧ ¬d.isDir here path

lemma not_bars_of_vacant (h : d.resolve here path .entry = .ok (.vacant m c)) :
    ¬d.Bars here path := by
  rintro ⟨⟨l, n, hfound⟩, -⟩
  cases h.symm.trans hfound

/-- Nothing was made, or only the directory that the path leads to. -/
def MakesAt (d d' : Disk) (here : Location) (path : Text) : Prop :=
  d' = d ∨ ∃ l, d.get? l = none ∧ d' = d.put l .dir ∧
    d'.resolve here path .content = .ok (.found l .dir)

variable {next : Text}

/-- Where a directory cannot be made, one that is there will do. -/
lemma ensureDirStrict_of_refused {e : Errno} (h : d.makeDir here path = .error (.at path e)) :
    d.ensureDirStrict here path =
      match d.isDirStrict here path with
      | .ok true => .ok d
      | .ok false => .error (.at path e)
      | .error e' => .error e' := by
  rw [ensureDirStrict, h]
  rfl

/-- **What comes of a directory that is asked for in another one.** It is made, or it is there,
unless its path is too long, or something else is in the way. -/
theorem ensureDirStrict_child (hnext : GoesOn here path next c) (hpath : next.isPath)
    (h : d.resolve here path .content = .ok (.found m .dir)) :
    (d.TooLong here next → d.ensureDirStrict here next = .error (.at next .nameTooLong)) ∧
      (¬d.TooLong here next → d.Bars here next →
        d.ensureDirStrict here next = .error (.at next .exists)) ∧
      (¬d.TooLong here next → ¬d.Bars here next →
        ∃ d', d.ensureDirStrict here next = .ok d' ∧ d'.isDir here next ∧
          d.MakesAt d' here next) := by
  have hpath' : ¬¬next.isPath := not_not_intro hpath
  rcases resolve_child hnext h with hlong | hfree | ⟨n, hn⟩
  · have htoo : d.TooLong here next := by rw [TooLong, stat, hlong]
    have hmake : d.makeDir here next = .error (.at next .nameTooLong) := by
      rw [makeDir, if_neg hpath', hlong]
    refine ⟨fun _ => ?_, fun hnot => absurd htoo hnot, fun hnot => absurd htoo hnot⟩
    rw [ensureDirStrict_of_refused hmake, isDirStrict_of_tooLong hpath htoo]
  · have hstat : d.stat here next = .error .noEntry := by rw [stat, hfree _ (by decide)]
    have hvacant := hfree .entry (by decide)
    have hmake : d.makeDir here next = .ok (d.put (c :: m) .dir) := by
      rw [makeDir, if_neg hpath', hvacant]
    have hmade : d.ensureDirStrict here next = .ok (d.put (c :: m) .dir) := by
      rw [ensureDirStrict, hmake]
    refine ⟨fun htoo => ?_, fun _ hbars => ?_, fun _ _ => ⟨_, hmade, isDir_of_makeDir hmake,
      .inr ⟨_, (free_of_resolve hvacant).1, rfl, resolve_put_dir hvacant⟩⟩⟩
    · rw [TooLong, hstat] at htoo
      cases htoo
    · exact absurd hbars (not_bars_of_vacant hvacant)
  · have hmake : d.makeDir here next = .error (.at next .exists) := by
      rw [makeDir, if_neg hpath', hn]
    rw [ensureDirStrict_of_refused hmake]
    refine ⟨fun htoo => ?_, fun hnot hbars => ?_, fun hnot hbars => ⟨d, ?_, ?_, .inl rfl⟩⟩
    · rw [isDirStrict_of_tooLong hpath htoo]
    · rw [isDirStrict_of_not_tooLong hnot, Bool.eq_false_iff.mpr hbars.2]
    · have hdir : d.isDir here next = true := by_contra fun hdir => hbars ⟨⟨_, n, hn⟩, hdir⟩
      rw [isDirStrict_of_not_tooLong hnot, hdir]
    · exact by_contra fun hdir => hbars ⟨⟨_, n, hn⟩, hdir⟩

end TestScaffold.Disk
