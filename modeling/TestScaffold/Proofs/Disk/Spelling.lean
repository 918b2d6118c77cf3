import TestScaffold.Proofs.Disk.Refusing
import TestScaffold.Proofs.Disk.Straight

/-!
Shortest spellings of paths, and the paths that they stand for.

* `resolve_toText`: without links, a directory that a path leads to is also there
  under the shortest spelling of the path, which leaves out slashes and single dots.
  So nothing has to be made for it (`makePath_of_isDir`).
* `canonical_eq`: without links, the path that a path stands for does not depend on
  the disk.
* `exists_canonical_or_loop`: **there is a path that a path stands for**, unless there
  is a NUL, or the path runs in a circle of links.
-/

namespace TestScaffold

/-! ### Spellings -/

namespace Text

/-- Fewer texts put together are part of what they all are. -/
lemma join_sublist {sep : Text} {xs ys : List Text} (h : xs.Sublist ys) :
    (join sep xs).Sublist (join sep ys) := by
  have hcons : ∀ (y : Text) (ys : List Text), (join sep ys).Sublist (join sep (y :: ys)) := by
    intro y ys
    by_cases hys : ys = []
    · simp [hys, join]
    · rw [join_cons hys]
      exact (List.sublist_append_right _ _).trans (List.sublist_append_right _ _)
  induction h with
  | slnil => exact .slnil
  | cons y h ih => exact ih.trans (hcons y _)
  | @cons_cons xs ys y h ih =>
      by_cases hxs : xs = []
      · by_cases hys : ys = []
        · rw [hxs, hys]
        · rw [hxs, join_cons hys]
          exact List.sublist_append_left _ _
      · have hys : ys ≠ [] := by
          rintro rfl
          exact hxs (List.sublist_nil.mp h)
        rw [join_cons hxs, join_cons hys]
        exact (List.Sublist.refl y).append ((List.Sublist.refl sep).append ih)

end Text

lemma Disk.steps_replicate_append (n : ℕ) (p : Text) :
    Disk.steps (List.replicate n (char '/') ++ p) = Disk.steps p := by
  induction n with
  | zero => rfl
  | succ n ih => rw [List.replicate_succ, List.cons_append, Disk.steps_slash, ih]

namespace Path

/-- Both sides of a cut are made of what is cut. -/
lemma splitLast_subset (p : Text) : (splitLast p).1 ⊆ p ∧ (splitLast p).2 ⊆ p := by
  have hlast : (p.reverse.takeWhile (· != char '/')).reverse ⊆ p := fun c hc =>
    List.mem_reverse.mp ((List.takeWhile_sublist _).mem (List.mem_reverse.mp hc))
  rw [splitLast]
  split
  · exact ⟨fun c => List.mem_of_mem_take, hlast⟩
  · refine ⟨fun c hc => ?_, hlast⟩
    have hmem := (List.dropWhile_sublist _).mem (List.mem_reverse.mp hc)
    exact List.mem_of_mem_take (List.mem_reverse.mp hmem)

lemma isPath_parentOf {p : Text} (h : p.isPath) : (parentOf p).isPath := by
  have hhead := Text.isPath_of_subset h (splitLast_subset p).1
  have hlast := Text.isPath_of_subset h (splitLast_subset p).2
  rw [parentOf]
  split
  · rfl
  dsimp only
  split
  · exact isPath_joinTo (isPath_joinTo hhead hlast) hlast
  · exact hhead

/-- A path begins with as many slashes as are counted. -/
lemma exists_of_leadingSlashes (s : Text) :
    ∃ rest, s = List.replicate (leadingSlashes s) (char '/') ++ rest := by
  unfold leadingSlashes
  split
  · exact ⟨_, rfl⟩
  · exact ⟨_, rfl⟩
  · exact ⟨_, rfl⟩
  · exact ⟨_, rfl⟩

lemma leadingSlashes_ne_zero_iff {s : Text} : leadingSlashes s ≠ 0 ↔ s.head? = some (char '/') := by
  constructor
  · intro h
    obtain ⟨rest, hrest⟩ := exists_of_leadingSlashes s
    obtain ⟨k, hk⟩ := Nat.exists_eq_succ_of_ne_zero h
    rw [hrest, hk]
    simp [List.replicate_succ]
  · intro h
    rcases leadingSlashes_of_head h with h | h <;> simp [h]

/-- The shortest spelling is a dot, or part of every other spelling. -/
lemma toText_ofText_sublist (s : Text) :
    (ofText s).toText = [char '.'] ∨ (ofText s).toText.Sublist s := by
  rw [toText]
  split
  · exact .inl rfl
  · obtain ⟨rest, hrest⟩ := exists_of_leadingSlashes s
    have hparts : (ofText s).parts = partsOf rest := by
      have hs : partsOf s = partsOf rest := by
        conv_lhs => rw [hrest]
        rw [partsOf_eq_filter, Disk.steps_replicate_append, ← partsOf_eq_filter]
      exact hs
    have hjoin : (Text.join [char '/'] (partsOf rest)).Sublist rest := by
      conv_rhs => rw [← Text.join_fields (char '/') rest]
      exact Text.join_sublist List.filter_sublist
    right
    conv_rhs => rw [hrest]
    rw [hparts]
    exact (List.Sublist.refl _).append hjoin

end Path

namespace Disk

variable {d d' : Disk} {here l l' : Location} {path : Text} {aim : Aim} {slash : Bool}
  {todo : List Text}

/-! ### Paths that are there -/

/-- A walk to a directory need not take single dots. -/
lemma stride_filter (hd : d.LinkFree) {aim' : Aim} (haim : aim' ≠ .file) (slash' : Bool)
    (h : d.stride aim slash l todo = .arrived (.found l' .dir)) :
    d.stride aim' slash' l (todo.filter (· != [char '.'])) = .arrived (.found l' .dir) := by
  fun_induction stride d aim slash l todo with
  | case1 l n hn =>
      obtain ⟨rfl, rfl⟩ : l = l' ∧ n = .dir := by simpa using h
      simp [stride, hn]
  | case4 l rest hdir ih => simpa using ih h
  | case5 l rest hdir hdot ih => simpa [stride, hdir] using ih h
  | case10 l c rest hdir hdot hdots hfile hlong t ht => exact absurd ht (hd _ _)
  | case12 l c rest hdir hdot hdots hfile hlong n hlink hn ih =>
      have hkeep : (c :: rest).filter (· != [char '.']) = c :: rest.filter (· != [char '.']) := by
        simp [hdot]
      rw [hkeep, stride_into (not_not.mp hdir) hdot hdots (by simp [haim]) hlong hn
        fun t heq => hd _ t (heq ▸ hn)]
      exact ih h
  | _ => simp at h

/-- A name that is part of another one is not longer in octets. -/
lemma length_encode_le {s t : Text} (h : s.Sublist t) :
    (Utf8.encode s).length ≤ (Utf8.encode t).length := by
  rw [Utf8.encode, Utf8.encode, List.length_flatMap, List.length_flatMap]
  exact (h.map _).sum_le_sum fun _ _ => Nat.zero_le _

/-- The steps of a path that has been taken apart are its parts. -/
lemma steps_toText {p : Path} (hne : ¬(p.slashes = 0 ∧ p.parts = []))
    (h : ∀ b ∈ p.parts, b ≠ [] ∧ char '/' ∉ b) : steps p.toText = p.parts := by
  rw [Path.toText, if_neg hne, steps_replicate_append, steps_join h]

lemma head?_toText_iff {p : Path} (h : ∀ b ∈ p.parts, b ≠ [] ∧ char '/' ∉ b) :
    p.toText.head? = some (char '/') ↔ p.slashes ≠ 0 := by
  rw [Path.toText]
  split
  · next hnone => simp [hnone.1]
  · by_cases hslashes : p.slashes = 0
    · simpa [hslashes] using Path.head?_join h
    · obtain ⟨k, hk⟩ := Nat.exists_eq_succ_of_ne_zero hslashes
      simp [hk, List.replicate_succ]

/-- A directory is also there under its shortest spelling. -/
lemma resolve_toText (hd : d.LinkFree) (hhere : d.get? here = some .dir) {aim' : Aim}
    (haim : aim' ≠ .file) (h : d.resolve here path aim = .ok (.found l .dir)) :
    d.resolve here (Path.ofText path).toText aim' = .ok (.found l .dir) := by
  obtain ⟨hne, hlong, hstride, -⟩ := (resolve_eq_ok_iff hd).mp h
  have hfilter := stride_filter hd haim (endsInSlash (Path.ofText path).toText) hstride
  rw [← Path.partsOf_eq_filter] at hfilter
  have hdir : ∀ k n, Spot.found l .dir = .found k n → endsInSlash (Path.ofText path).toText →
      aim' = .content → n = .dir := by
    intro k n heq _ _
    exact (Spot.found.inj heq).2.symm
  have hhead : (Path.ofText path).toText.head? = some (char '/') ↔ path.head? = some (char '/') :=
    (head?_toText_iff (Path.parts_ofText path)).trans Path.leadingSlashes_ne_zero_iff
  have horigin : origin here (Path.ofText path).toText = origin here path := by
    rw [origin, origin]
    simp only [hhead]
  have hget := get?_origin hhere path
  rw [resolve_eq_ok_iff hd, horigin]
  by_cases hnone : (Path.ofText path).slashes = 0 ∧ (Path.ofText path).parts = []
  · -- only single dots: the directory is the one where the path begins
    have hdot : (Path.ofText path).toText = [char '.'] := by rw [Path.toText, if_pos hnone]
    have hparts : Path.partsOf path = [] := hnone.2
    rw [hdot] at hdir hfilter ⊢
    rw [hparts] at hfilter
    refine ⟨by simp, by decide, ?_, hdir⟩
    rw [steps_of_notMem (by simp) (by simp)]
    simpa [stride, hget] using hfilter
  · have hsteps := steps_toText hnone (Path.parts_ofText path)
    refine ⟨fun hnil => ?_, ?_, ?_, hdir⟩
    · rw [hnil, steps_nil] at hsteps
      refine hnone ⟨?_, hsteps.symm⟩
      by_contra hslashes
      have hroot := (head?_toText_iff (Path.parts_ofText path)).mpr hslashes
      simp [hnil] at hroot
    · rcases Path.toText_ofText_sublist path with hdot | hsub
      · rw [hdot]
        decide
      · have hle := length_encode_le hsub
        omega
    · rw [hsteps]
      exact hfilter

/-- **Nothing is made for a directory that is there**, however it is spelled. -/
theorem makePath_of_isDir (hd : d.LinkFree) (hhere : d.get? here = some .dir)
    (h : d.isDir here path) (room : ℕ) :
    d.makePath here (room + 1) (Path.ofText path) = (.ok (), d) := by
  obtain ⟨hpath, l, hres⟩ := isDir_iff.mp h
  set p := Path.ofText path with hp
  have htext : p.toText.isPath := Path.isPath_toText (Path.isPath_parts hpath)
  have hthere : d.makeDir here p.toText = .error (.at p.toText .exists) := by
    rw [makeDir, if_neg (not_not_intro htext), resolve_toText hd hhere (by simp) hres]
  have hstat : d.stat here p.toText = .ok .dir := by
    rw [stat, resolve_toText hd hhere (by simp) hres]
  have hensure : d.ensureDirStrict here p.toText = .ok d := by
    rw [ensureDirStrict, hthere]
    simp [AccessError.at, isDirStrict, htext, hstat]
  rw [makePath]
  cases hparts : p.parts.reverse with
  | nil =>
      have htext : p.toText = Path.toText ⟨p.slashes, []⟩ := by
        rw [← List.reverse_eq_nil_iff.mp hparts]
      rw [makeParts, ← htext, hensure]
  | cons c up =>
      have htext : p.toText = Path.toText ⟨p.slashes, (c :: up).reverse⟩ := by
        rw [← hparts, List.reverse_reverse]
      rw [makeParts, ← htext, hthere, hensure]
      rfl

/-! ### The path that a path stands for -/

lemma LinkFree.linkAt?_eq_none (hd : d.LinkFree) (here : Location) (path : Text) :
    d.linkAt? here path = none := by
  rw [linkAt?]
  split
  · next k t hres => exact absurd (get?_of_resolve_found hres) (hd _ _)
  · rfl

/-- Without links the disk does not matter. -/
lemma settle_eq (hd : d.LinkFree) (hd' : d'.LinkFree) (budget budget' : ℕ)
    (seen : List (Text × Option Text)) (done s : Text) (around : List Pending) :
    d.settle here budget seen done s around = d'.settle here budget' seen done s around := by
  fun_induction settle d here budget seen done s around
  case case1 => rw [settle]
  case case2 ih => rw [settle, ih]
  case case3 ih => rw [settle, if_pos rfl, ih]
  case case4 hb _ _ _ hdot ih =>
      rw [settle, if_neg hb]
      exact ih.trans (if_pos hdot).symm
  case case5 hb _ _ _ hdot hdots ih =>
      rw [settle, if_neg hb]
      exact ih.trans ((if_neg hdot).trans (if_pos hdots)).symm
  case case6 hb _ _ hdot hdots hno =>
      rw [settle, if_neg hb]
      exact ((if_neg hdot).trans ((if_neg hdots).trans (if_pos hno))).symm
  case case7 hb _ _ _ hdot hdots hname _ _ ih =>
      rw [settle, if_neg hb]
      dsimp only
      rw [hd'.linkAt?_eq_none]
      exact ih.trans ((if_neg hdot).trans ((if_neg hdots).trans (if_neg hname))).symm
  -- the remaining cases are those of a link
  all_goals
    exact absurd ((hd.linkAt?_eq_none _ _).symm.trans ‹d.linkAt? here _ = some _›) (by simp)

/-- Without links a path is resolved by its spelling, whatever is on the disk. -/
lemma canonical_eq (hd : d.LinkFree) (hd' : d'.LinkFree) (here : Location) (path : Text) :
    d'.canonical here path = d.canonical here path := by
  have hstat : ∀ {d : Disk} {p : Text}, d.LinkFree → d.stat here p ≠ .error .tooManyLinks :=
    fun hd => Clear.stat_ne_tooManyLinks fun xs _ => hd _
  rw [canonical, canonical]
  dsimp only
  rw [settle_eq hd' hd _ (d.linkBudget here path)]
  cases d.settle here (d.linkBudget here path) []
    (if path.head? = some (char '/') then [char '/'] else []) path [] with
  | error e => rfl
  | ok found =>
      dsimp only
      split
      · rfl
      split
      · next hloop => exact absurd hloop (hstat hd')
      split
      · next hloop => exact absurd hloop (hstat hd)
      · rfl

/-- What a path stands for is spelled from the root. -/
lemma of_canonical {p : Path} (h : d.canonical here path = .ok p) :
    p.toText.isPath ∧ ∃ found, p = Path.ofText (Path.absolute (pathTo here) found) := by
  rw [canonical] at h
  dsimp only at h
  split at h
  · cases h
  split at h
  · cases h
  next hpath =>
    split at h
    · cases h
    · obtain rfl := Except.ok.inj h
      exact ⟨not_not.mp hpath, _, rfl⟩

lemma parts_of_canonical {p : Path} (h : d.canonical here path = .ok p) :
    ∀ b ∈ p.parts, b ≠ [] ∧ char '/' ∉ b := by
  obtain ⟨-, found, rfl⟩ := of_canonical h
  exact Path.parts_ofText _

lemma slashes_of_canonical {p : Path} (h : d.canonical here path = .ok p) : p.slashes ≠ 0 := by
  obtain ⟨-, found, rfl⟩ := of_canonical h
  have hslashes : Path.leadingSlashes (Path.joinTo (pathTo here) found) ≠ 0 :=
    Path.leadingSlashes_ne_zero_iff.mpr (Path.head?_joinTo_pathTo here found)
  obtain ⟨n, hn⟩ := Nat.exists_eq_succ_of_ne_zero hslashes
  refine Path.leadingSlashes_ne_zero_iff.mpr ?_
  simp [Path.absolute, Path.toText, Path.ofText, hn, List.replicate_succ]

/-- The targets of all links can be paths. -/
def LinksClean (d : Disk) : Prop := ∀ l t, d.get? l = some (.link t) → t.isPath

lemma linksClean_of_nodes (h : ∀ p ∈ d.nodes, ∀ t, p.2 = .link t → t.isPath) :
    d.LinksClean := by
  intro l t hl
  cases l with
  | nil => simp [get?] at hl
  | cons c l => exact h _ (mem_nodes_of_get? hl) t rfl

lemma LinkFree.linksClean (hd : d.LinkFree) : d.LinksClean := fun l t h => absurd h (hd l t)

/-- On a clean disk the targets of links can be paths. -/
lemma isPath_of_linkAt? (hd : d.LinksClean) {t : Text} (h : d.linkAt? here path = some t) :
    t.isPath := by
  rw [linkAt?] at h
  split at h
  · next l t' hres =>
      obtain rfl := Option.some.inj h
      exact hd _ _ (get?_of_resolve_found hres)
  · cases h

lemma isPath_keepRests {around : List Pending} (haround : ∀ f ∈ around, f.rest.isPath)
    {found : Text} (hfound : found.isPath) : (keepRests found around).isPath := by
  induction around generalizing found with
  | nil => exact hfound
  | cons f around ih =>
      exact ih (fun g hg => haround g (.tail _ hg))
        (Path.isPath_joinTo hfound (haround f (.head _)))

/-- What is found in texts that can be paths can be one, whatever links are followed. -/
lemma exists_settle (here : Location) (hd : d.LinksClean) (budget : ℕ)
    (seen : List (Text × Option Text)) {done s : Text} (around : List Pending)
    (hseen : ∀ q known, seen.lookup q = some (some known) → known.isPath)
    (hdone : done.isPath) (hs : s.isPath)
    (haround : ∀ f ∈ around, f.rest.isPath) :
    ∃ found, d.settle here budget seen done s around = .ok found ∧ found.isPath := by
  have hjoin : ∀ {p q : Text}, p.isPath → ¬¬q.isPath → (Path.joinTo p q).isPath :=
    fun hp hq => Path.isPath_joinTo hp (not_not.mp hq)
  have hrest : ∀ {c : CodePoint} {s : Text}, Text.isPath (c :: s) →
      Text.isPath ((s.dropWhile (· != char '/')).drop 1) := fun hs =>
    Text.isPath_of_subset hs fun _ => mem_of_mem_rest
  fun_induction settle d here budget seen done s around
  case case1 => exact ⟨_, rfl, hdone⟩
  case case2 f around ih =>
      refine ih (fun q known hq => ?_) hdone (haround f (.head _))
        fun g hg => haround g (.tail _ hg)
      rw [List.lookup_cons] at hq
      split at hq
      · obtain rfl := Option.some.inj (Option.some.inj hq)
        exact hdone
      · exact hseen q known hq
  case case3 ih => exact ih hseen hdone (Text.isPath_cons.mp hs).2 haround
  case case4 ih => exact ih hseen hdone (hrest hs) haround
  case case5 ih =>
      exact ih hseen (Path.isPath_parentOf hdone) (hrest hs) haround
  case case6 hno =>
      refine absurd (Text.isPath_of_subset hs fun c hc => ?_) hno
      exact List.cons_subset_cons _ (List.takeWhile_sublist _).subset hc
  case case7 hname _ _ ih => exact ih hseen (hjoin hdone hname) (hrest hs) haround
  -- a link that is known, one that is open, one too many, and one that is followed
  case case8 known hknown ih => exact ih hseen (hseen _ known hknown) (hrest hs) haround
  case case9 hname _ _ _ _ =>
      exact ⟨_, rfl, isPath_keepRests haround
        (Path.isPath_joinTo (hjoin hdone hname) (hrest hs))⟩
  case case10 hname _ _ _ _ =>
      exact ⟨_, rfl, isPath_keepRests haround
        (Path.isPath_joinTo (hjoin hdone hname) (hrest hs))⟩
  case case11 target htarget hnone _ ih =>
      refine ih (fun q known hq => ?_) ?_ (isPath_of_linkAt? hd htarget) fun g hg => ?_
      · rw [List.lookup_cons] at hq
        split at hq
        · cases hq
        · exact hseen q known hq
      · split
        · rfl
        · exact hdone
      · rcases List.mem_cons.mp hg with rfl | hg
        · exact hrest hs
        · exact haround g hg

/-- **What can be a path stands for a path**, unless it runs in a circle. -/
theorem exists_canonical_or_loop (hd : d.LinksClean) (hhere : (pathTo here).isPath)
    (h : path.isPath) :
    (∃ p, d.canonical here path = .ok p) ∨
      ∃ p, d.canonical here path = .error (.loop p) ∧ d.stat here p = .error .tooManyLinks := by
  have hstart : (if path.head? = some (char '/') then [char '/'] else [] : Text).isPath := by
    split <;> rfl
  obtain ⟨found, hfound, hpath⟩ :=
    exists_settle here hd (d.linkBudget here path) [] [] (by simp) hstart h (by simp)
  have habsolute : (Path.ofText (Path.absolute (pathTo here) found)).toText.isPath :=
    Path.isPath_toText (Path.isPath_parts (Path.isPath_absolute hhere hpath))
  rw [canonical]
  dsimp only
  rw [hfound]
  dsimp only
  rw [if_neg (not_not_intro habsolute)]
  split
  · next hloop => exact .inr ⟨_, rfl, hloop⟩
  · exact .inl ⟨_, rfl⟩

/-- Without links there are no circles. -/
theorem exists_canonical (hd : d.LinkFree) (hhere : (pathTo here).isPath)
    (h : path.isPath) :
    ∃ p, d.canonical here path = .ok p := by
  rcases exists_canonical_or_loop hd.linksClean hhere h with hp | ⟨q, -, hloop⟩
  · exact hp
  · exact absurd hloop (Clear.stat_ne_tooManyLinks fun xs _ => hd _)

end Disk

end TestScaffold
