import TestScaffold.Proofs.Disk.Spelling

/-!
Disks that differ in the files of one name.

* `Twins` are two such disks, in one of two ways: the files differ in their content
  only, or (`loose`) they need not stand on both disks. Directories are the same.
* On both disks a path leads to the same place (`Twins.resolve`), a loose pair
  provided that the path does not pass the name, and what it finds there is the
  same but for the contents of the files.
* So what is asked of a path has the same answer (`Twins.isDir`, `Twins.readFile`),
  and what is made for a path is refused on both or makes twins of both
  (`Twins.makeDirs`, `Twins.openFile`, `Twins.fill`, `Twins.makePath`,
  `Twins.openLog`).
-/

namespace TestScaffold

/-- The node, where it matters what a file has in it or not. -/
def Node.blur (loose : Bool) (n : Node) : Node := if loose then n else n.shape

/-- What a walk came to, where it matters what a file has in it or not. -/
def Spot.blur (loose : Bool) : Spot → Spot
  | .found l n => .found l (n.blur loose)
  | .vacant l c => .vacant l c

def Stride.blur (loose : Bool) : Stride → Stride
  | .arrived s => .arrived (s.blur loose)
  | .link l t rest => .link l t rest
  | .blocked e => .blocked e

@[simp] lemma Node.blur_true (n : Node) : n.blur true = n := rfl

@[simp] lemma Node.blur_false (n : Node) : n.blur false = n.shape := rfl

lemma Node.blur_eq_dir {loose : Bool} {n : Node} : n.blur loose = .dir ↔ n = .dir := by
  cases loose <;> simp

/-- A directory is told from other nodes even if contents do not count. -/
lemma Node.eq_dir_iff_of_blur {loose : Bool} {n n' : Node} (h : n'.blur loose = n.blur loose) :
    n' = .dir ↔ n = .dir := by
  rw [← @Node.blur_eq_dir loose n', h, Node.blur_eq_dir]

lemma Spot.blur_eq_vacant {loose : Bool} {s : Spot} {l : Location} {c : Text} :
    s.blur loose = .vacant l c ↔ s = .vacant l c := by
  cases s <;> simp [blur]

lemma Spot.blur_eq_found {loose : Bool} {s : Spot} {l : Location} {n : Node} :
    s.blur loose = .found l n ↔ ∃ n', n'.blur loose = n ∧ s = .found l n' := by
  cases s with
  | vacant k c => simp [blur]
  | found k n' =>
      simp only [blur, Spot.found.injEq]
      constructor
      · rintro ⟨rfl, rfl⟩
        exact ⟨n', rfl, rfl, rfl⟩
      · rintro ⟨n'', rfl, rfl, rfl⟩
        exact ⟨rfl, rfl⟩

/-- A stride that comes somewhere does so when contents do not count. -/
lemma Stride.blur_eq_arrived {loose : Bool} {x : Stride} {s : Spot} :
    x.blur loose = .arrived s ↔ ∃ s', s'.blur loose = s ∧ x = .arrived s' := by
  cases x with
  | arrived s' =>
      simp only [blur, Stride.arrived.injEq]
      constructor
      · rintro rfl
        exact ⟨s', rfl, rfl⟩
      · rintro ⟨s'', rfl, rfl⟩
        rfl
  | _ => simp [blur]

lemma Stride.blur_eq_blocked {loose : Bool} {x : Stride} {e : Errno} :
    x.blur loose = .blocked e ↔ x = .blocked e := by
  cases x <;> simp [blur]

namespace Disk

/-- The place is called by the name. -/
def Called (c : Text) (l : Location) : Prop := l.head? = some c

/-- The second disk has what the first one has, but for the files of a name. -/
structure Twins (c : Text) (loose : Bool) (d d' : Disk) : Prop where
  same : ∀ l, ¬Called c l → d'.get? l = d.get? l
  dirs : ∀ l, d'.get? l = some .dir ↔ d.get? l = some .dir
  shape : loose = false → ∀ l, (d'.get? l).map Node.shape = (d.get? l).map Node.shape

/-- Where a walk may go that is to come to the same on both disks. -/
def Avoids (c : Text) (loose : Bool) (todo : List Text) : Prop := loose = true → c ∉ todo

variable {c b : Text} {loose : Bool} {d d' d'' : Disk} {here l : Location} {path : Text} {aim : Aim}
  {slash : Bool} {todo : List Text}

/-- A tree without links, seen from one of its directories. -/
structure Plain (d : Disk) (here : Location) : Prop where
  linkFree : d.LinkFree
  isTree : d.IsTree
  here : d.get? here = some .dir

/-- One step of a walk to a name. -/
lemma stride_name {rest : List Text} (hl : d.get? l = some .dir) (hdot : b ≠ [char '.'])
    (hdots : b ≠ [char '.', char '.']) : d.stride aim slash l (b :: rest) =
      if rest = [] ∧ aim = .file ∧ slash then .blocked .isDirectory
      else if (Utf8.encode b).length > nameMax then .blocked .nameTooLong
      else
        match d.get? (b :: l) with
        | none => if rest = [] then .arrived (.vacant l b) else .blocked .noEntry
        | some (.link target) =>
          if rest = [] ∧ aim = .entry then .arrived (.found (b :: l) (.link target))
          else .link l target rest
        | some _ => d.stride aim slash (b :: l) rest := by
  have hdir : ¬d.get? l ≠ some .dir := by simp [hl]
  rw [stride]
  exact (if_neg hdir).trans ((if_neg hdot).trans (if_neg hdots))

namespace Twins

lemma refl (c : Text) (loose : Bool) (d : Disk) : Twins c loose d d :=
  ⟨fun _ _ => rfl, fun _ => Iff.rfl, fun _ _ => rfl⟩

lemma symm (h : Twins c loose d d') : Twins c loose d' d :=
  ⟨fun l hl => (h.same l hl).symm, fun l => (h.dirs l).symm, fun hs l => (h.shape hs l).symm⟩

/-- Being twins is an equivalence: logs may differ in each step. -/
lemma trans (h : Twins c loose d d') (h' : Twins c loose d' d'') : Twins c loose d d'' :=
  ⟨fun l hl => (h'.same l hl).trans (h.same l hl), fun l => (h'.dirs l).trans (h.dirs l),
    fun hs l => (h'.shape hs l).trans (h.shape hs l)⟩

lemma loosen (h : Twins c loose d d') : Twins c true d d' := ⟨h.same, h.dirs, by simp⟩

/-- The same is put on both disks. -/
lemma put (h : Twins c loose d d') (l : Location) (n : Node) :
    Twins c loose (d.put l n) (d'.put l n) := by
  have hput : ∀ (P : Option Node → Option Node → Prop) (k : Location),
      (∀ x, P x x) → P (d'.get? k) (d.get? k) → P ((d'.put l n).get? k) ((d.put l n).get? k) := by
    intro P k hrefl hk
    by_cases heq : k = l
    · subst heq
      cases k with
      | nil => exact hrefl _
      | cons b k =>
          rw [get?_put_self _ (by simp), get?_put_self _ (by simp)]
          exact hrefl _
    · rw [get?_put_of_ne _ heq, get?_put_of_ne _ heq]
      exact hk
  exact ⟨fun k hk => hput (fun x y => x = y) k (fun _ => rfl) (h.same k hk),
    fun k => hput (fun x y => x = some .dir ↔ y = some .dir) k (fun _ => Iff.rfl) (h.dirs k),
    fun hs k => hput (fun x y => x.map Node.shape = y.map Node.shape) k (fun _ => rfl)
      (h.shape hs k)⟩

/-- What stands at a place with another name is the same on both. -/
lemma get?_cons (h : Twins c loose d d') (hb : loose = true → b ≠ c) (l : Location) :
    (d'.get? (b :: l)).map (Node.blur loose) = (d.get? (b :: l)).map (Node.blur loose) := by
  cases loose with
  | true =>
      have hcalled : ¬Called c (b :: l) := by simpa [Called] using hb rfl
      rw [h.same _ hcalled]
  | false => exact h.shape rfl _

/-- **A walk comes to the same** on both disks. -/
lemma stride (h : Twins c loose d d') (aim : Aim) (slash : Bool) (hd : d.LinkFree)
    (hd' : d'.LinkFree) (ht : d.IsTree) (ht' : d'.IsTree) (htodo : Avoids c loose todo)
    (hl : (d'.get? l).map (Node.blur loose) = (d.get? l).map (Node.blur loose)) :
    (d'.stride aim slash l todo).blur loose = (d.stride aim slash l todo).blur loose := by
  have htail : ∀ {b : Text} {rest : List Text}, Avoids c loose (b :: rest) →
      (loose = true → b ≠ c) ∧ Avoids c loose rest := by
    intro b rest hall
    exact ⟨fun hs heq => hall hs (by simp [heq]), fun hs hmem => hall hs (.tail b hmem)⟩
  -- the cases are those of the walk on the first disk; the other one has to come to the same case,
  -- by what is at the place and, for a name, below it
  fun_induction Disk.stride d aim slash l todo with
  | case1 l n hn =>
      rw [hn] at hl
      obtain ⟨n', hn', hblur⟩ := Option.map_eq_some_iff.mp hl
      simp [Disk.stride, hn', Stride.blur, Spot.blur, hblur]
  | case2 l hnone =>
      rw [hnone] at hl
      have hnone' : d'.get? l = none := by simpa using hl
      simp [Disk.stride, hnone']
  | case3 l b rest hdir =>
      have hdir' : d'.get? l ≠ some .dir := mt (h.dirs l).mp hdir
      simp [Disk.stride, hdir']
  | case4 l rest hdir ih =>
      have hdir' := (h.dirs l).mpr (not_not.mp hdir)
      simpa [Disk.stride, hdir'] using ih (htail htodo).2 hl
  | case5 l rest hdir hdot ih =>
      have hdir' := (h.dirs l).mpr (not_not.mp hdir)
      have hup :
          (d'.get? l.tail).map (Node.blur loose) = (d.get? l.tail).map (Node.blur loose) := by
        rw [ht.tail (not_not.mp hdir), ht'.tail hdir']
      simpa [Disk.stride, hdir'] using ih (htail htodo).2 hup
  | case6 l b rest hdir hdot hdots hfile =>
      rw [stride_name ((h.dirs l).mpr (not_not.mp hdir)) hdot hdots, if_pos hfile]
  | case7 l b rest hdir hdot hdots hfile hlong =>
      rw [stride_name ((h.dirs l).mpr (not_not.mp hdir)) hdot hdots, if_neg hfile, if_pos hlong]
  | case8 l b hdir hdot hdots hlong hnone hfile =>
      have hnone' : d'.get? (b :: l) = none := by
        simpa [hnone] using h.get?_cons (htail htodo).1 l
      rw [stride_name ((h.dirs l).mpr (not_not.mp hdir)) hdot hdots, if_neg hfile, if_neg hlong,
        hnone']
      rfl
  | case9 l b rest hdir hdot hdots hfile hlong hnone hend =>
      have hnone' : d'.get? (b :: l) = none := by
        simpa [hnone] using h.get?_cons (htail htodo).1 l
      rw [stride_name ((h.dirs l).mpr (not_not.mp hdir)) hdot hdots, if_neg hfile, if_neg hlong,
        hnone']
      dsimp only
      rw [if_neg hend]
  | case10 l b rest hdir hdot hdots hfile hlong t ht => exact absurd ht (hd _ _)
  | case11 l b rest hdir hdot hdots hfile hlong t ht => exact absurd ht (hd _ _)
  | case12 l b rest hdir hdot hdots hfile hlong n hlink hn ih =>
      have hsame := h.get?_cons (htail htodo).1 l
      have hsome := hsame
      rw [hn] at hsome
      obtain ⟨n', hn', -⟩ := Option.map_eq_some_iff.mp hsome
      rw [stride_into ((h.dirs l).mpr (not_not.mp hdir)) hdot hdots hfile hlong hn'
        fun t heq => hd' _ t (heq ▸ hn')]
      exact ih (htail htodo).2 hsame

/-- **A path leads to the same** on both disks. -/
theorem resolve (h : Twins c loose d d') (aim : Aim) (hp : d.Plain here) (hp' : d'.Plain here)
    (hpath : Avoids c loose (steps path)) :
    (d'.resolve here path aim).map (Spot.blur loose) =
      (d.resolve here path aim).map (Spot.blur loose) := by
  have horigin : (d'.get? (origin here path)).map (Node.blur loose) =
      (d.get? (origin here path)).map (Node.blur loose) := by
    rw [get?_origin hp.here, get?_origin hp'.here]
  have hstride := h.stride aim (endsInSlash path) hp.linkFree hp'.linkFree hp.isTree hp'.isTree
    hpath horigin
  rw [Disk.resolve, Disk.resolve]
  split
  · rfl
  split
  · rfl
  -- without links each walk is a single stride
  rw [walk, walk]
  cases hs : d.stride aim (endsInSlash path) (origin here path) (steps path) with
  | link l t rest => exact absurd hs (stride_ne_link hp.linkFree _ _ _ _ _ _ _)
  | blocked e =>
      rw [hs] at hstride
      rw [Stride.blur_eq_blocked.mp hstride]
  | arrived s =>
      rw [hs] at hstride
      obtain ⟨s', hblur, hs'⟩ := Stride.blur_eq_arrived.mp hstride
      rw [hs']
      cases s with
      | vacant l b =>
          rw [Spot.blur_eq_vacant.mp hblur]
      | found l n =>
          obtain ⟨n', hn', rfl⟩ := Spot.blur_eq_found.mp hblur
          dsimp only
          simp only [ne_eq, Node.eq_dir_iff_of_blur hn']
          split
          · rfl
          · exact congrArg Except.ok hblur

section

variable (h : Twins c loose d d') (hp : d.Plain here) (hp' : d'.Plain here)
  (hpath : Avoids c loose (steps path))
include h hp hp' hpath

/-- What a path leads to on both disks: an error, a free name, or a node. -/
lemma resolve_cases (aim : Aim) :
    (∃ e, d.resolve here path aim = .error e ∧ d'.resolve here path aim = .error e) ∨
      (∃ l b, d.resolve here path aim = .ok (.vacant l b) ∧
        d'.resolve here path aim = .ok (.vacant l b)) ∨
      ∃ l n n', n'.blur loose = n.blur loose ∧ d.resolve here path aim = .ok (.found l n) ∧
        d'.resolve here path aim = .ok (.found l n') := by
  have hsame := h.resolve aim hp hp' hpath
  cases hres : d.resolve here path aim with
  | error e =>
      cases hres' : d'.resolve here path aim with
      | error e' => simp_all [Except.map]
      | ok s' => simp [hres, hres', Except.map] at hsame
  | ok s =>
      cases hres' : d'.resolve here path aim with
      | error e' => simp [hres, hres', Except.map] at hsame
      | ok s' =>
          have hblur : s'.blur loose = s.blur loose := by
            simpa [hres, hres', Except.map] using hsame
          cases s with
          | vacant l b => exact .inr (.inl ⟨l, b, rfl, by rw [Spot.blur_eq_vacant.mp hblur]⟩)
          | found l n =>
              obtain ⟨n', hn', rfl⟩ := Spot.blur_eq_found.mp hblur
              exact .inr (.inr ⟨l, n, n', hn', rfl, rfl⟩)

/-- Whether a directory is there does not depend on which of the twins is asked. This and
the next are the questions that the generator asks. -/
lemma isDir : d'.isDir here path = d.isDir here path := by
  rcases h.resolve_cases hp hp' hpath .content with
    ⟨e, hres, hres'⟩ | ⟨l, b, hres, hres'⟩ | ⟨l, n, n', hblur, hres, hres'⟩
  · simp [Disk.isDir, stat, hres, hres']
  · simp [Disk.isDir, stat, hres, hres']
  · have hdir := Node.eq_dir_iff_of_blur hblur
    rw [Disk.isDir, Disk.isDir, stat, stat, hres, hres']
    cases n <;> cases n' <;> simp_all

lemma exists? : d'.exists? here path = d.exists? here path := by
  rcases h.resolve_cases hp hp' hpath .content with
    ⟨e, hres, hres'⟩ | ⟨l, b, hres, hres'⟩ | ⟨l, n, n', hblur, hres, hres'⟩ <;>
  · simp [Disk.exists?, stat, hres, hres', Except.isOk, Except.toBool]

lemma isDirStrict : d'.isDirStrict here path = d.isDirStrict here path := by
  rcases h.resolve_cases hp hp' hpath .content with
    ⟨e, hres, hres'⟩ | ⟨l, b, hres, hres'⟩ | ⟨l, n, n', hblur, hres, hres'⟩
  · simp [Disk.isDirStrict, stat, hres, hres']
  · simp [Disk.isDirStrict, stat, hres, hres']
  · simp [Disk.isDirStrict, stat, hres, hres', Node.eq_dir_iff_of_blur hblur]

end

end Twins

/-! ### Changes -/

/-- A disk stays plain when directories are added. -/
lemma Plain.adds (hp : d.Plain here) (h : Adds d d') : d'.Plain here where
  linkFree := fun l t hl => hp.linkFree l t (h.get?_link hl)
  isTree := h.isTree hp.isTree
  here := h.get?_of_some hp.here

/-- What a change comes to on two disks: it is refused on both, or it leaves twins. -/
inductive Changed (c : Text) (loose : Bool) :
    Except AccessError Disk → Except AccessError Disk → Prop
  | refused (e : AccessError) : Changed c loose (.error e) (.error e)
  | made {d d' : Disk} (h : Twins c loose d d') : Changed c loose (.ok d) (.ok d')

/-- What a change comes to that may be refused halfway: the answers are the same, and
it leaves twins. -/
def ChangedMost (c : Text) (loose : Bool) (x x' : Except AccessError Unit × Disk) : Prop :=
  x'.1 = x.1 ∧ Twins c loose x.2 x'.2

lemma ChangedMost.exists_eq {x x' : Except AccessError Unit × Disk} (h : ChangedMost c loose x x') :
    ∃ r d d', x = (r, d) ∧ x' = (r, d') ∧ Twins c loose d d' :=
  ⟨x.1, x.2, x'.2, rfl, Prod.ext h.1 rfl, h.2⟩

namespace Twins

section

variable (h : Twins c loose d d') (hp : d.Plain here) (hp' : d'.Plain here)
  (hpath : Avoids c loose (steps path))
include h hp hp' hpath

/-- A directory is made on both disks or on none. This and the next are the changes that
are made on the way to a file. -/
lemma makeDir : Changed c loose (d.makeDir here path) (d'.makeDir here path) := by
  rw [Disk.makeDir, Disk.makeDir]
  split
  · exact .refused _
  rcases h.resolve_cases hp hp' hpath .entry with
    ⟨e, hres, hres'⟩ | ⟨l, b, hres, hres'⟩ | ⟨l, n, n', -, hres, hres'⟩
  · rw [hres, hres']
    exact .refused _
  · rw [hres, hres']
    exact .made (h.put (b :: l) .dir)
  · rw [hres, hres']
    exact .refused _

lemma ensureDir : Changed c loose (d.ensureDir here path) (d'.ensureDir here path) := by
  rw [Disk.ensureDir, Disk.ensureDir, h.isDir hp hp' hpath]
  have hmake := h.makeDir hp hp' hpath
  generalize d.makeDir here path = x at hmake
  generalize d'.makeDir here path = x' at hmake
  cases hmake with
  | made hmade => exact .made hmade
  | refused e =>
      cases e with
      | notPath p => exact .refused _
      | _ =>
          dsimp only
          split
          · exact .made h
          · exact .refused _

lemma ensureDirStrict :
    Changed c loose (d.ensureDirStrict here path) (d'.ensureDirStrict here path) := by
  rw [Disk.ensureDirStrict, Disk.ensureDirStrict, h.isDirStrict hp hp' hpath]
  have hmake := h.makeDir hp hp' hpath
  generalize d.makeDir here path = x at hmake
  generalize d'.makeDir here path = x' at hmake
  cases hmake with
  | made hmade => exact .made hmade
  | refused e =>
      cases e with
      | notPath p => exact .refused _
      | _ =>
          rcases d.isDirStrict here path with e' | (_ | _)
          · exact .refused _
          · exact .refused _
          · exact .made h

end

/-- A last step that may be refused. -/
lemma finish {x x' : Except AccessError Disk} (h : Twins c loose d d') :
    Changed c loose x x' → ChangedMost c loose
      (match x with
        | .ok d => ((.ok (), d) : Except AccessError Unit × Disk)
        | .error e => (.error e, d))
      (match x' with
        | .ok d' => ((.ok (), d') : Except AccessError Unit × Disk)
        | .error e => (.error e, d')) := by
  rintro (e | hmade)
  · exact ⟨rfl, h⟩
  · exact ⟨rfl, hmade⟩

end Twins

/-- What a path avoids, its beginnings avoid too. -/
lemma Avoids.beginning {p : Text} (h : Avoids c loose (steps path)) (hp : Path.Beginning p path) :
    Avoids c loose (steps p) := by
  obtain ⟨q, rfl, hseam⟩ := hp
  intro hloose hmem
  refine h hloose ?_
  rw [steps_append_of_seam hseam]
  exact List.mem_append_left _ hmem

namespace Twins

/-- **Directories looked for from the inside.** -/
theorem makeDirs (depth : ℕ) (h : Twins c loose d d') (hp : d.Plain here)
    (hp' : d'.Plain here) (hpath : Avoids c loose (steps path)) :
    ChangedMost c loose (d.makeDirs here depth path) (d'.makeDirs here depth path) := by
  induction depth generalizing path with
  | zero => exact ⟨rfl, h⟩
  | succ depth ih =>
      rw [Disk.makeDirs, Disk.makeDirs]
      set cut := if (Path.splitLast path).2 = [] then Path.splitLast (Path.splitLast path).1
        else Path.splitLast path with hcut
      by_cases hne : cut.1 = []
      · rw [if_neg (by simp [hne]), if_neg (by simp [hne])]
        exact h.finish (h.ensureDir hp hp' hpath)
      have hbefore := hpath.beginning (Path.beginning_cut (hcut ▸ hne))
      rw [← hcut] at hbefore
      rw [h.exists? hp hp' hbefore]
      split
      swap
      · exact h.finish (h.ensureDir hp hp' hpath)
      -- what is made before the last part, all of it or not
      have hadds := makeDirs_adds depth d here cut.1
      have hadds' := makeDirs_adds depth d' here cut.1
      obtain ⟨r, d₁, d₁', hrun, hrun', hmade⟩ := (ih hbefore).exists_eq
      rw [hrun] at hadds ⊢
      rw [hrun'] at hadds' ⊢
      have hlast : ChangedMost c loose
          (match d₁.ensureDir here path with
            | .ok d => ((.ok (), d) : Except AccessError Unit × Disk)
            | .error e => (.error e, d₁))
          (match d₁'.ensureDir here path with
            | .ok d' => ((.ok (), d') : Except AccessError Unit × Disk)
            | .error e => (.error e, d₁')) :=
        hmade.finish (hmade.ensureDir (hp.adds hadds) (hp'.adds hadds') hpath)
      cases r with
      | ok u =>
          dsimp only
          split
          · exact ⟨rfl, hmade⟩
          · exact hlast
      | error e =>
          dsimp only
          split
          · split
            · exact ⟨rfl, hmade⟩
            · exact hlast
          · exact ⟨rfl, hmade⟩

/-- Directories looked for from the end. -/
lemma makeParts (depth slashes : ℕ) {parts : List Text} (h : Twins c false d d')
    (hp : d.Plain here) (hp' : d'.Plain here) :
    ChangedMost c false (d.makeParts here slashes depth parts)
      (d'.makeParts here slashes depth parts) := by
  have hfree : ∀ todo, Avoids c false todo := fun todo hloose => by simp at hloose
  induction depth generalizing parts with
  | zero => exact ⟨rfl, h⟩
  | succ depth ih =>
      cases parts with
      | nil => exact h.finish (h.ensureDirStrict hp hp' (hfree _))
      | cons b up =>
          rw [Disk.makeParts, Disk.makeParts]
          have hmake := h.makeDir hp hp' (hfree (steps (Path.toText ⟨slashes, (b :: up).reverse⟩)))
          have hlast := h.finish (h.ensureDirStrict hp hp'
            (hfree (steps (Path.toText ⟨slashes, (b :: up).reverse⟩))))
          generalize d.makeDir here (Path.toText ⟨slashes, (b :: up).reverse⟩) = x at hmake
          generalize d'.makeDir here (Path.toText ⟨slashes, (b :: up).reverse⟩) = x' at hmake
          rcases hmake with (_ | _ | ⟨errno, p⟩) | -
          · exact hlast
          · exact hlast
          · cases errno with
            | noEntry =>
                -- the parent is missing, and is made first
                have hadds := makeParts_adds d here slashes depth up
                have hadds' := makeParts_adds d' here slashes depth up
                obtain ⟨r, d₁, d₁', hrun, hrun', hmade⟩ := (@ih up).exists_eq
                rw [hrun] at hadds ⊢
                rw [hrun'] at hadds' ⊢
                cases r with
                | error e => exact ⟨rfl, hmade⟩
                | ok u =>
                    exact hmade.finish
                      (hmade.ensureDirStrict (hp.adds hadds) (hp'.adds hadds') (hfree _))
            | _ => exact hlast
          · exact hlast

lemma makePath (h : Twins c false d d') (hp : d.Plain here) (hp' : d'.Plain here) (room : ℕ)
    (p : Path) : ChangedMost c false (d.makePath here room p) (d'.makePath here room p) :=
  h.makeParts room p.slashes hp hp'

/-- A log is opened on both disks, at the same place, or it is refused on both. -/
lemma openLog (h : Twins c false d d') (hp : d.Plain here) (hp' : d'.Plain here) (path : Text) :
    (∃ e, d.openLog here path = .error e ∧ d'.openLog here path = .error e) ∨
      ∃ l d₁ d₁', d.openLog here path = .ok (d₁, l) ∧ d'.openLog here path = .ok (d₁', l) ∧
        Twins c false d₁ d₁' := by
  rw [Disk.openLog, Disk.openLog]
  split
  · exact .inl ⟨_, rfl, rfl⟩
  have hpath : Avoids c false (steps path) := by simp [Avoids]
  rcases h.resolve_cases hp hp' hpath .file with
    ⟨e, hres, hres'⟩ | ⟨l, b, hres, hres'⟩ | ⟨l, n, n', hblur, hres, hres'⟩
  · rw [target, target, hres, hres']
    exact .inl ⟨_, rfl, rfl⟩
  · rw [target, target, hres, hres']
    exact .inr ⟨_, _, _, rfl, rfl, h.put _ _⟩
  · rw [target, target, hres, hres']
    cases n <;> cases n' <;> simp_all [Node.shape]

/-- A file is opened on both disks, at the same place, or it is refused on both. -/
lemma openFile (h : Twins c true d d') (hp : d.Plain here) (hp' : d'.Plain here)
    (hpath : c ∉ steps path) :
    (∃ e, d.openFile here path = .error e ∧ d'.openFile here path = .error e) ∨
      ∃ l d₁ d₁', d.openFile here path = .ok (d₁, l) ∧ d'.openFile here path = .ok (d₁', l) ∧
        Twins c true d₁ d₁' ∧ d₁'.get? l = d₁.get? l := by
  rw [Disk.openFile, Disk.openFile]
  split
  · exact .inl ⟨_, rfl, rfl⟩
  rcases h.resolve_cases hp hp' (fun _ => hpath) .file with
    ⟨e, hres, hres'⟩ | ⟨l, b, hres, hres'⟩ | ⟨l, n, n', hblur, hres, hres'⟩
  · rw [target, target, hres, hres']
    exact .inl ⟨_, rfl, rfl⟩
  · rw [target, target, hres, hres']
    refine .inr ⟨_, _, _, rfl, rfl, h.put _ _, ?_⟩
    rw [get?_put_self d' (by simp), get?_put_self d (by simp)]
  · obtain rfl : n' = n := hblur
    have hget := get?_of_resolve_found hres
    have hget' := get?_of_resolve_found hres'
    rw [target, target, hres, hres']
    by_cases hdir : n' = .dir
    · subst hdir
      exact .inl ⟨_, rfl, rfl⟩
    have hl : l ≠ [] := by
      rintro rfl
      exact hdir (Option.some.inj hget).symm
    have hput : (d'.put l (.file [])).get? l = (d.put l (.file [])).get? l := by
      rw [get?_put_self d' hl, get?_put_self d hl]
    cases n' with
    | dir => exact absurd rfl hdir
    | faulty => exact .inr ⟨l, d, d', rfl, rfl, h, by rw [hget, hget']⟩
    | _ => exact .inr ⟨l, _, _, rfl, rfl, h.put _ _, hput⟩

/-- What is written to a file is refused on both disks, at the same point, or on none. -/
lemma fill (h : Twins c true d d') (hl : d'.get? l = d.get? l)
    (refusal? : Location → List UInt8 → Option Refusal) (content : List UInt8) :
    ChangedMost c true (d.fill refusal? l content) (d'.fill refusal? l content) := by
  rw [Disk.fill, Disk.fill, hl]
  split
  · exact ⟨rfl, h⟩
  split
  · exact ⟨rfl, h⟩
  split
  · exact ⟨rfl, h.put _ _⟩
  · exact ⟨rfl, h.put _ _⟩

/-! ### Reading -/

section

variable (h : Twins c true d d') (hp : d.Plain here) (hp' : d'.Plain here) (hpath : c ∉ steps path)
include h hp hp' hpath

/-- A path that passes no log leads to the same node on both disks, content included. -/
lemma resolve_eq (aim : Aim) : d'.resolve here path aim = d.resolve here path aim := by
  rcases h.resolve_cases hp hp' (fun _ => hpath) aim with
    ⟨e, hres, hres'⟩ | ⟨l, b, hres, hres'⟩ | ⟨l, n, n', hblur, hres, hres'⟩
  · rw [hres, hres']
  · rw [hres, hres']
  · rw [hres, hres', show n' = n from hblur]

lemma isFile : d'.isFile here path = d.isFile here path := by
  rw [Disk.isFile, Disk.isFile, stat, stat, h.resolve_eq hp hp' hpath]

lemma readFile : d'.readFile here path = d.readFile here path := by
  rw [Disk.readFile, Disk.readFile, stat, stat, h.resolve_eq hp hp' hpath]

end

end Twins

/-! ### Logs -/

/-- The last step of the absolute path of an entry is its name. -/
lemma steps_absolute_child (hhere : ∀ b ∈ here, Path.IsName b) {p : Path} (hc : Path.IsName c)
    (hparts : ∀ b ∈ p.parts, b ≠ [] ∧ char '/' ∉ b) :
    ∃ before, steps (Path.absolute (pathTo here) (p.child c).toText) = before ++ [c] := by
  have hchild : steps (p.child c).toText = p.parts ++ [c] := by
    refine steps_toText (by simp [Path.child]) fun b hb => ?_
    rcases List.mem_append.mp hb with hb | hb
    · exact hparts b hb
    · rw [List.mem_singleton.mp hb]
      exact ⟨hc.ne_nil, hc.notMem⟩
  have hplace : lexical (origin here (p.child c).toText) (steps (p.child c).toText) =
      c :: lexical (origin here (p.child c).toText) p.parts := by
    rw [hchild, lexical_concat hc.ne_dot hc.ne_dots]
  have hnames := isName_placeOf hhere (p.child c).toText
  rw [placeOf, hplace] at hnames
  rw [Path.absolute_eq_append hhere, steps_replicate_append, hplace,
    steps_join (parts_reverse hnames), List.reverse_cons]
  exact ⟨_, rfl⟩

/-- **A log that is opened stands under the name of its path**, and nothing else is
made for it. -/
theorem twins_of_openLog {before : List Text} (hp : d.Plain here) (hc : Path.IsName c)
    (hsteps : steps path = before ++ [c]) (h : d.openLog here path = .ok (d', l)) :
    Called c l ∧ Twins c true d d' := by
  have hplace : Called c (lexical (origin here path) (steps path)) := by
    rw [hsteps, lexical_concat hc.ne_dot hc.ne_dots]
    rfl
  rw [openLog, target] at h
  split at h
  · cases h
  cases hres : d.resolve here path .file with
  | error e => simp [hres] at h
  | ok spot =>
      have hstride := ((resolve_eq_ok_iff hp.linkFree).mp hres).2.2.1
      cases spot with
      | vacant k b =>
          rw [← eq_lexical_of_vacant hstride] at hplace
          have hfree := get?_of_stride_vacant hstride
          obtain ⟨rfl, rfl⟩ : d.put (b :: k) (.file []) = d' ∧ b :: k = l := by
            simpa [hres] using h
          refine ⟨hplace, fun m hm => ?_, fun m => ?_, by simp⟩
          · exact get?_put_of_ne d (fun (heq : m = b :: k) => hm (heq ▸ hplace)) _
          · by_cases hm : m = b :: k
            · rw [hm, get?_put_self d (by simp), hfree]
              simp
            · rw [get?_put_of_ne d hm]
      | found k n =>
          rw [← eq_lexical_of_found hstride] at hplace
          obtain ⟨rfl, rfl⟩ : d = d' ∧ k = l := by
            cases n <;> simp [hres] at h
            · exact h
            · exact h
          exact ⟨hplace, .refl c true d⟩

end Disk

end TestScaffold
