import Mathlib.Tactic
import TestScaffold.Disk.Access

/-!
Disks that grow: what stands somewhere stays, and only files change, in their
content.

* `Grows` is this order of disks; putting something on a free place, or a file
  in the place of a file, is a step of it (`Grows.put`).
* A path that leads somewhere leads there on every disk that has grown
  (`resolve_found_of_grows`), since a walk passes directories and links only.
-/

namespace TestScaffold

/-- The node without the content of a file. -/
def Node.shape : Node → Node
  | .file _ => .file []
  | n => n

@[simp] lemma Node.shape_eq_dir {n : Node} : n.shape = .dir ↔ n = .dir := by
  cases n <;> simp [shape]

@[simp] lemma Node.shape_eq_link {n : Node} {t : Text} : n.shape = .link t ↔ n = .link t := by
  cases n <;> simp [shape]

namespace Disk

/-- Whatever stands somewhere on the first disk stands there on the second,
where a file may have another content. -/
def Grows (d d' : Disk) : Prop :=
  ∀ l n, d.get? l = some n → ∃ n', d'.get? l = some n' ∧ n'.shape = n.shape

namespace Grows

variable {d d' d'' : Disk}

@[refl] lemma refl (d : Disk) : Grows d d := fun _ n h => ⟨n, h, rfl⟩

lemma trans (h : Grows d d') (h' : Grows d' d'') : Grows d d'' := by
  intro l n hn
  obtain ⟨n', hn', hs⟩ := h l n hn
  obtain ⟨n'', hn'', hs'⟩ := h' l n' hn'
  exact ⟨n'', hn'', hs'.trans hs⟩

/-- A directory stays one. -/
lemma get?_dir (h : Grows d d') {l : Location} (hl : d.get? l = some .dir) :
    d'.get? l = some .dir := by
  obtain ⟨n', hn', hs⟩ := h l _ hl
  rw [hn', Node.shape_eq_dir.mp hs]

lemma get?_link (h : Grows d d') {l : Location} {t : Text} (hl : d.get? l = some (.link t)) :
    d'.get? l = some (.link t) := by
  obtain ⟨n', hn', hs⟩ := h l _ hl
  rw [hn', Node.shape_eq_link.mp hs]

/-- A disk grows where something is put on a free place, or on a node of the
same shape. -/
lemma put {l : Location} (hl : l ≠ []) {n : Node}
    (h : ∀ m, d.get? l = some m → n.shape = m.shape) : Grows d (d.put l n) := by
  intro k m hm
  by_cases hk : k = l
  · subst hk
    exact ⟨n, get?_put_self d hl n, h m hm⟩
  · exact ⟨m, by rw [get?_put_of_ne d hk, hm], rfl⟩

end Grows

/-! ### Walks on a disk that has grown -/

variable {d d' : Disk} {aim : Aim} {slash : Bool} {l l' : Location} {todo : List Text}

/-- What a walk comes to without following a link stands there. -/
lemma get?_of_stride_found {n : Node} (h : d.stride aim slash l todo = .arrived (.found l' n)) :
    d.get? l' = some n := by
  fun_induction stride d aim slash l todo <;> simp_all

/-- One step of a walk into what is no link. -/
lemma stride_into {c : Text} {rest : List Text} (hl : d.get? l = some .dir) (hdot : c ≠ [char '.'])
    (hdots : c ≠ [char '.', char '.']) (hfile : ¬(rest = [] ∧ aim = .file ∧ slash))
    (hlong : ¬(Utf8.encode c).length > nameMax) {n : Node} (hn : d.get? (c :: l) = some n)
    (hlink : ∀ t, n ≠ .link t) :
    d.stride aim slash l (c :: rest) = d.stride aim slash (c :: l) rest := by
  rw [stride, if_neg (by simp [hl]), if_neg hdot, if_neg hdots, if_neg hfile, if_neg hlong, hn]
  cases n with
  | link t => exact absurd rfl (hlink t)
  | _ => rfl

lemma stride_found_of_grows (hg : Grows d d') {n : Node}
    (h : d.stride aim slash l todo = .arrived (.found l' n)) :
    ∃ n', n'.shape = n.shape ∧ d'.stride aim slash l todo = .arrived (.found l' n') := by
  -- only the cases in which something was found are left; in each of them the second disk has a
  -- node of the same kind
  fun_induction stride d aim slash l todo with
  | case1 l n₀ hn₀ =>
      obtain ⟨rfl, rfl⟩ : l = l' ∧ n₀ = n := by simpa using h
      obtain ⟨n', hn', hs⟩ := hg l n₀ hn₀
      exact ⟨n', hs, by simp [stride, hn']⟩
  | case4 l rest hl ih =>
      obtain ⟨n', hs, hstride⟩ := ih h
      have hl' := hg.get?_dir (not_not.mp hl)
      exact ⟨n', hs, by simp [stride, hl', hstride]⟩
  | case5 l rest hl hdot ih =>
      obtain ⟨n', hs, hstride⟩ := ih h
      have hl' := hg.get?_dir (not_not.mp hl)
      exact ⟨n', hs, by simp [stride, hl', hstride]⟩
  | case10 l c rest hl hdot hdots hfile hlong t ht hend =>
      obtain ⟨rfl, rfl⟩ : c :: l = l' ∧ .link t = n := by simpa using h
      have hl' := hg.get?_dir (not_not.mp hl)
      refine ⟨.link t, rfl, ?_⟩
      rw [stride, if_neg (by simp [hl']), if_neg hdot, if_neg hdots, if_neg hfile, if_neg hlong,
        hg.get?_link ht]
      simp [hend]
  | case12 l c rest hl hdot hdots hfile hlong n₀ hlink hn₀ ih =>
      obtain ⟨n', hs, hstride⟩ := ih h
      obtain ⟨n₁, hn₁, hs₁⟩ := hg _ _ hn₀
      refine ⟨n', hs, ?_⟩
      rw [stride_into (hg.get?_dir (not_not.mp hl)) hdot hdots hfile hlong hn₁, hstride]
      rintro t rfl
      exact hlink t (Node.shape_eq_link.mp hs₁.symm)
  | _ => simp at h

lemma stride_link_of_grows (hg : Grows d d') {t : Text} {rest : List Text}
    (h : d.stride aim slash l todo = .link l' t rest) :
    d'.stride aim slash l todo = .link l' t rest := by
  fun_induction stride d aim slash l todo with
  | case4 l rest hl ih =>
      have hl' := hg.get?_dir (not_not.mp hl)
      simp [stride, hl', ih h]
  | case5 l rest hl hdot ih =>
      have hl' := hg.get?_dir (not_not.mp hl)
      simp [stride, hl', ih h]
  | case11 l c rest hl hdot hdots hfile hlong t₀ ht hend =>
      have hl' := hg.get?_dir (not_not.mp hl)
      rw [stride, if_neg (by simp [hl']), if_neg hdot, if_neg hdots, if_neg hfile, if_neg hlong,
        hg.get?_link ht]
      simpa [hend] using h
  | case12 l c rest hl hdot hdots hfile hlong n₀ hlink hn₀ ih =>
      obtain ⟨n₁, hn₁, hs₁⟩ := hg _ _ hn₀
      rw [stride_into (hg.get?_dir (not_not.mp hl)) hdot hdots hfile hlong hn₁, ih h]
      rintro t rfl
      exact hlink t (Node.shape_eq_link.mp hs₁.symm)
  | _ => simp at h

lemma get?_of_walk_found {budget : ℕ} {n : Node}
    (h : d.walk aim budget slash l todo = .ok (.found l' n)) : d.get? l' = some n := by
  fun_induction walk d aim budget slash l todo with
  | case2 budget slash l todo l₀ n₀ hstride =>
      obtain ⟨rfl, rfl⟩ : l₀ = l' ∧ n₀ = n := by simpa using h
      exact get?_of_stride_found hstride
  | case6 slash l todo l₁ t rest hstride budget ih => exact ih h
  | _ => simp_all

lemma walk_found_of_grows (hg : Grows d d') {budget : ℕ} {n : Node}
    (h : d.walk aim budget slash l todo = .ok (.found l' n)) :
    ∃ n', n'.shape = n.shape ∧ d'.walk aim budget slash l todo = .ok (.found l' n') := by
  fun_induction walk d aim budget slash l todo with
  | case2 budget slash l todo l₀ n₀ hstride hdir =>
      obtain ⟨rfl, rfl⟩ : l₀ = l' ∧ n₀ = n := by simpa using h
      obtain ⟨n', hs, hstride'⟩ := stride_found_of_grows hg hstride
      have hdir' : n' = .dir ↔ n₀ = .dir := by
        rw [← Node.shape_eq_dir, hs, Node.shape_eq_dir]
      refine ⟨n', hs, ?_⟩
      rw [walk, hstride']
      simp only [ne_eq, hdir', hdir, ↓reduceIte]
  | case6 slash l todo l₁ t rest hstride budget ih =>
      obtain ⟨n', hs, hwalk⟩ := ih h
      refine ⟨n', hs, ?_⟩
      rw [walk, stride_link_of_grows hg hstride]
      exact hwalk
  | _ => simp_all

/-- **A path leads where it led**, on a disk that has grown. -/
theorem resolve_found_of_grows (hg : Grows d d') {here : Location} {path : Text} {n : Node}
    (h : d.resolve here path aim = .ok (.found l n)) :
    ∃ n', n'.shape = n.shape ∧ d'.resolve here path aim = .ok (.found l n') := by
  rw [resolve] at h ⊢
  split at h
  · cases h
  · split at h
    · cases h
    · next hne hlong =>
        rw [if_neg hne, if_neg hlong]
        exact walk_found_of_grows hg h

lemma get?_of_resolve_found {here : Location} {path : Text} {n : Node}
    (h : d.resolve here path aim = .ok (.found l n)) : d.get? l = some n := by
  rw [resolve] at h
  split at h
  · cases h
  · split at h
    · cases h
    · exact get?_of_walk_found h

/-! ### Reading -/

/-- A text leads to a directory if it can be a path and a directory is found there. -/
lemma isDir_iff {d : Disk} {here : Location} {path : Text} :
    d.isDir here path ↔
      path.isPath ∧ ∃ l, d.resolve here path .content = .ok (.found l .dir) := by
  rw [isDir, stat]
  rcases d.resolve here path .content with e | ⟨l, n⟩ | ⟨l, c⟩
  · simp
  · cases n <;> simp
  · simp

/-- A directory stays where a disk grows. -/
lemma isDir_of_grows {d d' : Disk} {here : Location} {path : Text} (hg : Grows d d')
    (h : d.isDir here path) : d'.isDir here path := by
  obtain ⟨hpath, l, hres⟩ := isDir_iff.mp h
  obtain ⟨n, hn, hres'⟩ := resolve_found_of_grows hg hres
  obtain rfl : n = .dir := Node.shape_eq_dir.mp hn
  exact isDir_iff.mpr ⟨hpath, l, hres'⟩

/-- Nothing is read where a text can be no path. -/
lemma isPath_of_readFile {d : Disk} {here : Location} {path : Text} {bs : List UInt8}
    (h : d.readFile here path = .ok bs) : path.isPath := by
  by_contra hno
  simp [readFile, hno] at h

/-- The content of a file that is read is what the path leads to. -/
lemma resolve_of_readFile {d : Disk} {here : Location} {path : Text} {bs : List UInt8}
    (h : d.readFile here path = .ok bs) :
    ∃ l, d.resolve here path .content = .ok (.found l (.file bs)) := by
  rw [readFile, stat] at h
  split at h
  · cases h
  cases hres : d.resolve here path .content with
  | error e => simp [hres] at h
  | ok spot =>
      cases spot with
      | vacant l c => simp [hres] at h
      | found l n =>
          cases n with
          | file bs' =>
              obtain rfl : bs' = bs := by simpa [hres] using h
              exact ⟨l, rfl⟩
          | _ => simp [hres] at h

/-- A text that can be no path is refused for that, and any other by the system. -/
lemma of_readFile_error {d : Disk} {here : Location} {path : Text} {e : AccessError}
    (h : d.readFile here path = .error e) :
    (¬path.isPath ∧ e = .notPath path) ∨ (path.isPath ∧ ∃ e', e = .system e') := by
  rw [readFile] at h
  split at h
  · next hno =>
      cases h
      exact .inl ⟨by simpa using hno, rfl⟩
  · next hpath =>
      refine .inr ⟨by simpa using hpath, ?_⟩
      split at h <;> cases h <;> exact ⟨_, rfl⟩

end Disk

end TestScaffold
