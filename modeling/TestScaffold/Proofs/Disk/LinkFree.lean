import TestScaffold.Proofs.Disk.Growth

/-!
Disks without links.

* On a `LinkFree` disk a path leads where one stride along its steps leads
  (`resolve_eq_ok_iff`).
* `lexical` goes along the steps of a path without a look at any disk. What is
  found, or found to be missing, is at the place that it comes to
  (`eq_lexical_of_found`, `eq_lexical_of_vacant`), so the last name of a path
  is the last name of where it leads (`lexical_concat`).
* A path that leads to a free name leads to what is put there
  (`resolve_put_of_vacant`).
-/

namespace TestScaffold.Disk

/-- No location of the disk is a link. -/
def LinkFree (d : Disk) : Prop := ∀ l t, d.get? l ≠ some (.link t)

/-- No link comes from something else that is put on the disk. -/
lemma LinkFree.put {d : Disk} (h : d.LinkFree) {l : Location} (hl : l ≠ []) {n : Node}
    (hn : ∀ t, n ≠ .link t) : (d.put l n).LinkFree := by
  intro k t
  by_cases hk : k = l
  · subst hk
    rw [get?_put_self d hl]
    simpa using hn t
  · rw [get?_put_of_ne d hk]
    exact h k t

variable {d : Disk} {aim : Aim} {slash : Bool} {here l l' : Location} {todo : List Text}
  {path c : Text}

/-! ### Where a path leads -/

/-- Without links a path leads where a stride along its steps leads. Only a
directory is meant by a path with a slash at its end. -/
lemma resolve_eq_ok_iff (h : d.LinkFree) {s : Spot} :
    d.resolve here path aim = .ok s ↔
      path ≠ [] ∧ ¬(Utf8.encode path).length ≥ pathMax ∧
        d.stride aim (endsInSlash path) (origin here path) (steps path) = .arrived s ∧
        ∀ l n, s = .found l n → endsInSlash path → aim = .content → n = .dir := by
  rw [resolve]
  by_cases hne : path = []
  · simp [hne]
  by_cases hlong : (Utf8.encode path).length ≥ pathMax
  · simp [hne, hlong]
  rw [if_neg hne, if_neg hlong, walk]
  have hlink := stride_ne_link h aim (endsInSlash path) (origin here path) (steps path)
  simp only [ne_eq, hne, hlong, not_false_eq_true, true_and]
  cases hstride : d.stride aim (endsInSlash path) (origin here path) (steps path) with
  | link l t rest => exact absurd hstride (hlink l t rest)
  | blocked e => simp
  | arrived s₀ =>
      cases s₀ with
      | vacant l c =>
          simp only [Except.ok.injEq, Stride.arrived.injEq]
          constructor
          · rintro rfl
            simp
          · exact fun h => h.1
      | found l n =>
          by_cases hdir : endsInSlash path = true ∧ aim = .content ∧ ¬n = .dir
          · simp only [hdir, not_false_eq_true, and_self, ↓reduceIte, reduceCtorEq,
              Stride.arrived.injEq, false_iff, not_and]
            rintro rfl hall
            exact hdir.2.2 (hall l n rfl trivial trivial)
          · simp only [hdir, ↓reduceIte, Except.ok.injEq, Stride.arrived.injEq]
            constructor
            · rintro rfl
              refine ⟨rfl, fun l n heq hs ha => ?_⟩
              obtain ⟨rfl, rfl⟩ := Spot.found.inj heq
              exact not_not.mp fun hn => hdir ⟨hs, ha, hn⟩
            · exact fun h => h.1

/-! ### Places -/

/-- The place one step from a location. -/
def stepTo (l : Location) (c : Text) : Location :=
  if c = [char '.'] then l else if c = [char '.', char '.'] then l.tail else c :: l

/-- The place at the end of the steps. -/
def lexical (l : Location) (todo : List Text) : Location := todo.foldl stepTo l

@[simp] lemma lexical_nil (l : Location) : lexical l [] = l := rfl

lemma lexical_cons (l : Location) (c : Text) (rest : List Text) :
    lexical l (c :: rest) = lexical (stepTo l c) rest := rfl

lemma lexical_append (l : Location) (todo rest : List Text) :
    lexical l (todo ++ rest) = lexical (lexical l todo) rest := List.foldl_append

/-- The last step is the last name, unless it is of dots. -/
lemma lexical_concat {l : Location} {todo : List Text} {c : Text} (hdot : c ≠ [char '.'])
    (hdots : c ≠ [char '.', char '.']) : lexical l (todo ++ [c]) = c :: lexical l todo := by
  rw [lexical_append, lexical_cons, lexical_nil, stepTo, if_neg hdot, if_neg hdots]

/-- Without links, where a stride comes to is a matter of the names alone. -/
lemma eq_lexical_of_found {n : Node} (h : d.stride aim slash l todo = .arrived (.found l' n)) :
    l' = lexical l todo := by
  fun_induction stride d aim slash l todo with
  | case1 l n₀ hn₀ => simp_all
  | case4 l rest hl ih => simpa [lexical_cons, stepTo] using ih h
  | case5 l rest hl hdot ih => simpa [lexical_cons, stepTo] using ih h
  | case10 l c rest hl hdot hdots hfile hlong t ht hend =>
      obtain ⟨rfl, rfl⟩ : c :: l = l' ∧ .link t = n := by simpa using h
      simp [hend.1, lexical_cons, stepTo, hdot, hdots]
  | case12 l c rest hl hdot hdots hfile hlong n₀ hlink hn₀ ih =>
      simpa [lexical_cons, stepTo, hdot, hdots] using ih h
  | _ => simp at h

lemma eq_lexical_of_vacant (h : d.stride aim slash l todo = .arrived (.vacant l' c)) :
    c :: l' = lexical l todo := by
  fun_induction stride d aim slash l todo with
  | case4 l rest hl ih => simpa [lexical_cons, stepTo] using ih h
  | case5 l rest hl hdot ih => simpa [lexical_cons, stepTo] using ih h
  | case8 l c₀ hl hdot hdots hlong hnone hfile =>
      obtain ⟨rfl, rfl⟩ : l = l' ∧ c₀ = c := by simpa using h
      simp [lexical_cons, stepTo, hdot, hdots]
  | case12 l c₀ rest hl hdot hdots hfile hlong n₀ hlink hn₀ ih =>
      simpa [lexical_cons, stepTo, hdot, hdots] using ih h
  | _ => simp at h

/-! ### Free names -/

/-- A stride that ends before something missing has looked there. -/
lemma get?_of_stride_vacant (h : d.stride aim slash l todo = .arrived (.vacant l' c)) :
    d.get? (c :: l') = none := by
  fun_induction stride d aim slash l todo <;> simp_all

/-- A stride to a free name comes to what is put there. -/
lemma stride_put_of_vacant {n : Node} (hn : ∀ t, n ≠ .link t)
    (h : d.stride aim slash l todo = .arrived (.vacant l' c)) :
    (d.put (c :: l') n).stride .content slash l todo = .arrived (.found (c :: l') n) := by
  have hg : Grows d (d.put (c :: l') n) :=
    Grows.put (by simp) (by simp [get?_of_stride_vacant h])
  have hself := get?_put_self d (l := c :: l') (by simp) n
  fun_induction stride d aim slash l todo with
  | case4 l rest hl ih => simp [stride, hg.get?_dir (not_not.mp hl), ih h]
  | case5 l rest hl hdot ih => simp [stride, hg.get?_dir (not_not.mp hl), ih h]
  | case8 l c₀ hl hdot hdots hlong hnone hfile =>
      obtain ⟨rfl, rfl⟩ : l = l' ∧ c₀ = c := by simpa using h
      rw [stride_into (hg.get?_dir (not_not.mp hl)) hdot hdots (by simp) hlong hself hn]
      simp [stride, hself]
  | case12 l c₀ rest hl hdot hdots hfile hlong n₀ hlink hn₀ ih =>
      obtain ⟨n₁, hn₁, hs₁⟩ := hg _ _ hn₀
      rw [stride_into (hg.get?_dir (not_not.mp hl)) hdot hdots (by simp) hlong hn₁, ih h]
      rintro t rfl
      exact hlink t (Node.shape_eq_link.mp hs₁.symm)
  | _ => simp at h

/-- **A path to a free name leads to what is put there**; where it has a slash
at its end, that is a directory. -/
theorem resolve_put_of_vacant (hd : d.LinkFree) {n : Node} (hn : ∀ t, n ≠ .link t)
    (hslash : endsInSlash path → n = .dir)
    (h : d.resolve here path aim = .ok (.vacant l c)) :
    (d.put (c :: l) n).resolve here path .content = .ok (.found (c :: l) n) := by
  obtain ⟨hne, hlong, hstride, -⟩ := (resolve_eq_ok_iff hd).mp h
  refine (resolve_eq_ok_iff (hd.put (by simp) hn)).mpr
    ⟨hne, hlong, stride_put_of_vacant hn hstride, fun k m hkm hs _ => ?_⟩
  obtain ⟨rfl, rfl⟩ := Spot.found.inj hkm
  exact hslash hs

lemma get?_of_resolve_vacant (hd : d.LinkFree) (h : d.resolve here path aim = .ok (.vacant l c)) :
    d.get? (c :: l) = none :=
  get?_of_stride_vacant ((resolve_eq_ok_iff hd).mp h).2.2.1

/-- The place that a path leads to by its spelling. -/
def placeOf (here : Location) (path : Text) : Location := lexical (origin here path) (steps path)

/-- What is found is at the place that the steps say. -/
lemma eq_lexical_of_resolve_found (hd : d.LinkFree) {n : Node}
    (h : d.resolve here path aim = .ok (.found l n)) :
    l = lexical (origin here path) (steps path) :=
  eq_lexical_of_found ((resolve_eq_ok_iff hd).mp h).2.2.1

end TestScaffold.Disk
