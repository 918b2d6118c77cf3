import TestScaffold.Proofs.Path.Names
import TestScaffold.Session

/-!
Disks that are trees of named entries.

* `IsTree`: whatever stands somewhere has a name, and stands in a directory.
* A path that ends in dots leads to a directory (`eq_dir_of_stride_dots`), so
  what is no directory is found under the name of its path
  (`exists_name_of_resolve_found`).
* `Session.IsPlain` is a session on such a disk, without links, that stands in
  one of its directories.
-/

namespace TestScaffold

namespace Disk

/-- Whatever stands somewhere has a name and stands in a directory. -/
structure IsTree (d : Disk) : Prop where
  isName : ∀ c l, d.get? (c :: l) ≠ none → Path.IsName c
  parent : ∀ c l, d.get? (c :: l) ≠ none → d.get? l = some .dir

/-! ### Disks as lists of entries -/

lemma mem_nodes_of_get? {d : Disk} {c : Text} {l : Location} {n : Node}
    (h : d.get? (c :: l) = some n) : (c :: l, n) ∈ d.nodes := by
  obtain ⟨⟨k, m⟩, hfind, rfl⟩ := Option.map_eq_some_iff.mp h
  have hk : k = c :: l := by simpa using List.find?_some hfind
  exact hk ▸ List.mem_of_find?_eq_some hfind

/-- The nodes are a list, so for a disk that is given both properties can be computed. -/
lemma linkFree_of_nodes {d : Disk} (h : ∀ p ∈ d.nodes, ∀ t, p.2 ≠ .link t) : d.LinkFree := by
  intro l t hl
  cases l with
  | nil => simp [get?] at hl
  | cons c l => exact h _ (mem_nodes_of_get? hl) t rfl

lemma isTree_of_nodes {d : Disk}
    (h : ∀ p ∈ d.nodes, ∀ c ∈ p.1.head?, Path.IsName c ∧ d.get? p.1.tail = some .dir) :
    d.IsTree := by
  have hnode : ∀ c l, d.get? (c :: l) ≠ none → Path.IsName c ∧ d.get? l = some .dir := by
    intro c l hl
    obtain ⟨n, hn⟩ := Option.ne_none_iff_exists'.mp hl
    exact h _ (mem_nodes_of_get? hn) c rfl
  exact ⟨fun c l hl => (hnode c l hl).1, fun c l hl => (hnode c l hl).2⟩

/-! ### Dots at the end of a path -/

variable {d : Disk} {aim : Aim} {slash : Bool} {here l l' : Location} {todo : List Text}
  {path : Text} {n : Node}

/-- What is above a directory is a directory, also at the root. -/
lemma IsTree.tail (h : d.IsTree) (hl : d.get? l = some .dir) : d.get? l.tail = some .dir := by
  cases l with
  | nil => rfl
  | cons c l => exact h.parent c l (by simp [hl])

/-- What is on a tree has names all the way up. -/
lemma IsTree.isName_of_mem (h : d.IsTree) (hl : d.get? l ≠ none) : ∀ c ∈ l, Path.IsName c := by
  induction l with
  | nil => simp
  | cons c l ih =>
      have hup := h.parent c l hl
      intro b hb
      rcases List.mem_cons.mp hb with rfl | hb
      · exact h.isName b l hl
      · exact ih (by simp [hup]) b hb

lemma eq_dir_of_stride_dots (ht : d.IsTree) (hl : todo = [] → d.get? l = some .dir)
    (hlast : ∀ c ∈ todo.getLast?, c = [char '.'] ∨ c = [char '.', char '.'])
    (h : d.stride aim slash l todo = .arrived (.found l' n)) : n = .dir := by
  have hrest : ∀ {b : Text} {rest : List Text},
      (∀ c ∈ (b :: rest).getLast?, c = [char '.'] ∨ c = [char '.', char '.']) →
        ∀ c ∈ rest.getLast?, c = [char '.'] ∨ c = [char '.', char '.'] := by
    intro b rest hall c hc
    exact hall c (by simp [List.getLast?_cons, Option.mem_def.mp hc])
  fun_induction stride d aim slash l todo with
  | case1 l n₀ hn₀ =>
      obtain ⟨rfl, rfl⟩ : l = l' ∧ n₀ = n := by simpa using h
      have hdir := hl rfl
      rw [hn₀] at hdir
      exact Option.some.inj hdir
  | case4 l rest hdir ih => exact ih (fun _ => not_not.mp hdir) (hrest hlast) h
  | case5 l rest hdir hdot ih => exact ih (fun _ => ht.tail (not_not.mp hdir)) (hrest hlast) h
  | case10 l c rest hdir hdot hdots hfile hlong t hlink hend =>
      rcases hlast c (by simp [hend.1]) with hc | hc
      · exact absurd hc hdot
      · exact absurd hc hdots
  | case12 l c rest hdir hdot hdots hfile hlong n₀ hlink hn₀ ih =>
      refine ih (fun hend => ?_) (hrest hlast) h
      rcases hlast c (by simp [hend]) with hc | hc
      · exact absurd hc hdot
      · exact absurd hc hdots
  | _ => simp at h

/-! ### Free names -/

lemma isName_of_mem_steps {p c : Text} (h : c ∈ steps p) (hdot : c ≠ [char '.'])
    (hdots : c ≠ [char '.', char '.']) : Path.IsName c :=
  ⟨ne_nil_of_mem_steps h, notMem_of_mem_steps h, hdot, hdots⟩

/-- What is missing at the end of a stride is a name below a directory. -/
lemma of_stride_vacant {c : Text} (h : d.stride aim slash l todo = .arrived (.vacant l' c)) :
    c ∈ todo ∧ c ≠ [char '.'] ∧ c ≠ [char '.', char '.'] ∧ d.get? l' = some .dir := by
  fun_induction stride d aim slash l todo with
  | case4 l rest hl ih =>
      obtain ⟨hmem, hrest⟩ := ih h
      exact ⟨.tail _ hmem, hrest⟩
  | case5 l rest hl hdot ih =>
      obtain ⟨hmem, hrest⟩ := ih h
      exact ⟨.tail _ hmem, hrest⟩
  | case8 l c₀ hl hdot hdots hlong hnone hfile =>
      obtain ⟨rfl, rfl⟩ : l = l' ∧ c₀ = c := by simpa using h
      exact ⟨by simp, hdot, hdots, not_not.mp hl⟩
  | case12 l c₀ rest hl hdot hdots hfile hlong n₀ hlink hn₀ ih =>
      obtain ⟨hmem, hrest⟩ := ih h
      exact ⟨.tail _ hmem, hrest⟩
  | _ => simp at h

/-- A free name that a path leads to is one that an entry may have, and is free
in a directory. -/
lemma of_resolve_vacant {c : Text} (hd : d.LinkFree)
    (h : d.resolve here path aim = .ok (.vacant l c)) :
    Path.IsName c ∧ d.get? l = some .dir := by
  obtain ⟨hmem, hdot, hdots, hdir⟩ := of_stride_vacant ((resolve_eq_ok_iff hd).mp h).2.2.1
  exact ⟨isName_of_mem_steps hmem hdot hdots, hdir⟩

/-- A tree stays one where something is put in a directory, unless it takes the
place of another directory. -/
lemma IsTree.put {c : Text} (ht : d.IsTree) (hc : Path.IsName c) (hl : d.get? l = some .dir)
    (hn : d.get? (c :: l) ≠ some .dir) : (d.put (c :: l) n).IsTree := by
  have hup : ∀ k, d.get? k = some .dir → (d.put (c :: l) n).get? k = some .dir := by
    intro k hk
    have hne : k ≠ c :: l := fun heq => hn (heq ▸ hk)
    rw [get?_put_of_ne d hne, hk]
  have hentry : ∀ b k, (d.put (c :: l) n).get? (b :: k) ≠ none →
      Path.IsName b ∧ d.get? k = some .dir := by
    intro b k hbk
    by_cases heq : b :: k = c :: l
    · obtain ⟨rfl, rfl⟩ := List.cons.inj heq
      exact ⟨hc, hl⟩
    · rw [get?_put_of_ne d heq] at hbk
      exact ⟨ht.isName b k hbk, ht.parent b k hbk⟩
  exact ⟨fun b k hbk => (hentry b k hbk).1, fun b k hbk => hup k (hentry b k hbk).2⟩

/-! ### Names of files -/

/-- **What is no directory is found under the name of its path.** -/
theorem exists_name_of_resolve_found (hd : d.LinkFree) (ht : d.IsTree) (hn : n ≠ .dir)
    (h : d.resolve here path .content = .ok (.found l n)) :
    ∃ up, l = (Path.ofText path).name :: up := by
  obtain ⟨hne, -, hstride, -⟩ := (resolve_eq_ok_iff hd).mp h
  have hroot : steps path = [] → d.get? (origin here path) = some .dir := by
    intro hnil
    rw [origin, if_pos (head?_of_steps_eq_nil hne hnil)]
    rfl
  obtain ⟨c, hc, hdots⟩ :
      ∃ c ∈ (steps path).getLast?, ¬(c = [char '.'] ∨ c = [char '.', char '.']) := by
    by_contra hall
    push Not at hall
    exact hn (eq_dir_of_stride_dots ht hroot hall hstride)
  obtain ⟨before, hsteps⟩ := List.getLast?_eq_some_iff.mp hc
  rw [not_or] at hdots
  refine ⟨lexical (origin here path) before, ?_⟩
  rw [Path.name_of_steps hsteps hdots.1, eq_lexical_of_found hstride, hsteps,
    lexical_concat hdots.1 hdots.2]

end Disk

/-- A session on a tree without links, which stands in one of its
directories. -/
structure Session.IsPlain (s : Session) : Prop where
  linkFree : s.disk.LinkFree
  isTree : s.disk.IsTree
  here : s.disk.get? s.here = some .dir

lemma Session.IsPlain.of_grows {s : Session} {d : Disk} (h : s.IsPlain) (hd : d.LinkFree)
    (ht : d.IsTree) (hg : s.disk.Grows d) : ({ s with disk := d } : Session).IsPlain :=
  ⟨hd, ht, hg.get?_dir h.here⟩

/-- The names on the way to where the session stands. -/
lemma Session.IsPlain.isName_here {s : Session} (h : s.IsPlain) : ∀ c ∈ s.here, Path.IsName c :=
  h.isTree.isName_of_mem (by simp [h.here])

end TestScaffold
