import TestScaffold.Proofs.Disk.Tree

/-!
What is made on a disk for a log.

Making directories and opening a log only add to a disk: directories, and files
with nothing in them. This holds on every disk, also on one with links, and
whether all that is asked for can be made or not.

* `Adds` is this relation of two disks. What stands somewhere stays, so a file
  keeps its content (`Adds.content_eq`) and no link is new (`Adds.get?_link`).
* `adds_of_makeDir` is the step; from it come the loops that make all that is
  missing of a path, `makeDirs_adds` from the inside and `makeParts_adds`
  from the end.
* `adds_of_openLog`: a log is opened where a file stands afterwards.
-/

namespace TestScaffold.Disk

/-- What the file at a place has in it; nothing, if there is no file. -/
def content (d : Disk) (l : Location) : List UInt8 :=
  match d.get? l with
  | some (.file bs) => bs
  | _ => []

lemma content_of_file {d : Disk} {l : Location} {bs : List UInt8} (h : d.get? l = some (.file bs)) :
    d.content l = bs := by
  rw [content, h]

lemma content_of_no_file {d : Disk} {l : Location} (h : ∀ bs, d.get? l ≠ some (.file bs)) :
    d.content l = [] := by
  rw [content]
  split
  · next bs hbs => exact absurd hbs (h bs)
  · rfl

/-- The second disk has new directories and empty files, and otherwise what the
first one has; it is still a tree. -/
structure Adds (d d' : Disk) : Prop where
  nodes : ∀ l, d'.get? l = d.get? l ∨
    d.get? l = none ∧ (d'.get? l = some .dir ∨ d'.get? l = some (.file []))
  isTree : d.IsTree → d'.IsTree

namespace Adds

variable {d d' d'' : Disk} {l : Location}

@[refl] lemma refl (d : Disk) : Adds d d := ⟨fun _ => .inl rfl, id⟩

/-- What stands somewhere stays. -/
lemma get?_of_some (h : Adds d d') {n : Node} (hn : d.get? l = some n) : d'.get? l = some n := by
  rcases h.nodes l with heq | ⟨hnone, -⟩
  · rw [heq, hn]
  · rw [hn] at hnone
    cases hnone

/-- Adding is transitive. -/
lemma trans (h : Adds d d') (h' : Adds d' d'') : Adds d d'' := by
  refine ⟨fun l => ?_, h'.isTree ∘ h.isTree⟩
  rcases h.nodes l with heq | ⟨hnone, hnew⟩
  · rcases h'.nodes l with heq' | ⟨hnone', hnew'⟩
    · exact .inl (heq'.trans heq)
    · exact .inr ⟨heq ▸ hnone', hnew'⟩
  · refine .inr ⟨hnone, ?_⟩
    rcases hnew with hdir | hfile
    · exact .inl (h'.get?_of_some hdir)
    · exact .inr (h'.get?_of_some hfile)

lemma grows (h : Adds d d') : Grows d d' := fun _ n hn => ⟨n, h.get?_of_some hn, rfl⟩

/-- No link is new. -/
lemma get?_link (h : Adds d d') {t : Text} (hl : d'.get? l = some (.link t)) :
    d.get? l = some (.link t) := by
  rcases h.nodes l with heq | ⟨-, hdir | hfile⟩
  · rw [← heq, hl]
  · rw [hl] at hdir
    cases hdir
  · rw [hl] at hfile
    cases hfile

/-- Files keep their content, and new ones have none. -/
lemma content_eq (h : Adds d d') (l : Location) : d'.content l = d.content l := by
  rcases h.nodes l with heq | ⟨hnone, hdir | hfile⟩
  · rw [content, content, heq]
  · rw [content, content, hnone, hdir]
  · rw [content, content, hnone, hfile]

/-- Something is put on a free place in a directory. -/
lemma put {c : Text} {n : Node} (hfree : d.get? (c :: l) = none) (hc : Path.IsName c)
    (hl : d.get? l = some .dir) (hn : n = .dir ∨ n = .file []) : Adds d (d.put (c :: l) n) := by
  refine ⟨fun k => ?_, fun ht => ht.put hc hl (by simp [hfree])⟩
  by_cases hk : k = c :: l
  · subst hk
    rw [get?_put_self d (by simp)]
    exact .inr ⟨hfree, by simpa using hn⟩
  · exact .inl (get?_put_of_ne d hk n)

end Adds

variable {d d' : Disk} {here l : Location} {path : Text} {aim : Aim} {c : Text}

/-! ### Free names -/

lemma of_stride_link {slash : Bool} {k : Location} {t : Text} {todo rest : List Text}
    (h : d.stride aim slash k todo = .link l t rest) :
    d.get? l = some .dir ∧ ∀ b ∈ rest, b ∈ todo := by
  fun_induction stride d aim slash k todo <;> simp_all

/-- A free name that a walk comes to is one that an entry may have, and is free
in a directory, however many links were followed. -/
lemma of_walk_vacant {budget : ℕ} {slash : Bool} {k : Location} {todo : List Text}
    (htodo : ∀ b ∈ todo, b ≠ [] ∧ char '/' ∉ b)
    (h : d.walk aim budget slash k todo = .ok (.vacant l c)) :
    d.get? (c :: l) = none ∧ Path.IsName c ∧ d.get? l = some .dir := by
  fun_induction walk d aim budget slash k todo with
  | case3 budget slash k todo s hne hs =>
      obtain rfl : s = .vacant l c := by simpa using h
      obtain ⟨hmem, hdot, hdots, hdir⟩ := of_stride_vacant hs
      obtain ⟨hnil, hslash⟩ := htodo c hmem
      exact ⟨get?_of_stride_vacant hs, ⟨hnil, hslash, hdot, hdots⟩, hdir⟩
  | case6 slash k todo l₁ t rest hlink budget ih =>
      refine ih (fun b hb => ?_) h
      rcases List.mem_append.mp hb with hb | hb
      · exact ⟨ne_nil_of_mem_steps hb, notMem_of_mem_steps hb⟩
      · exact htodo b ((of_stride_link hlink).2 b hb)
  | _ => simp_all

/-- Where something is missing there is a directory, and the name is free. -/
lemma free_of_resolve (h : d.resolve here path aim = .ok (.vacant l c)) :
    d.get? (c :: l) = none ∧ Path.IsName c ∧ d.get? l = some .dir := by
  rw [resolve] at h
  split at h
  · cases h
  · split at h
    · cases h
    · exact of_walk_vacant (fun b hb => ⟨ne_nil_of_mem_steps hb, notMem_of_mem_steps hb⟩) h

/-! ### Directories -/

/-- This and the next lemmas go through the changes of the disk: each of them adds. -/
lemma adds_of_makeDir (h : d.makeDir here path = .ok d') : Adds d d' := by
  rw [makeDir] at h
  split at h
  · cases h
  split at h
  · cases h
  · cases h
  · next hvacant =>
      cases h
      obtain ⟨hfree, hname, hdir⟩ := free_of_resolve hvacant
      exact .put hfree hname hdir (.inl rfl)

lemma adds_of_ensureDir (h : d.ensureDir here path = .ok d') : Adds d d' := by
  rw [ensureDir] at h
  split at h
  · next hmake =>
      cases h
      exact adds_of_makeDir hmake
  · cases h
  · split at h
    · cases h
      rfl
    · cases h

lemma adds_of_ensureDirStrict (h : d.ensureDirStrict here path = .ok d') : Adds d d' := by
  rw [ensureDirStrict] at h
  split at h
  · next hmake =>
      cases h
      exact adds_of_makeDir hmake
  · cases h
  · split at h
    · cases h
      rfl
    · cases h
    · cases h

/-- What is left behind by a last step that may be refused. -/
lemma adds_finish {x : Except AccessError Disk} (hx : ∀ d', x = .ok d' → Adds d d') :
    Adds d (match x with
      | .ok d' => ((.ok (), d') : Except AccessError Unit × Disk)
      | .error e => (.error e, d)).2 := by
  cases x with
  | ok d' => exact hx d' rfl
  | error e => rfl

/-- Directories looked for from the inside. -/
lemma makeDirs_adds (depth : ℕ) (d : Disk) (here : Location) (path : Text) :
    Adds d (d.makeDirs here depth path).2 := by
  have hfinish : ∀ (d : Disk) (path : Text), Adds d (match d.ensureDir here path with
      | .ok d' => ((.ok (), d') : Except AccessError Unit × Disk)
      | .error e => (.error e, d)).2 := fun d path => adds_finish fun _ => adds_of_ensureDir
  induction depth generalizing path with
  | zero => rfl
  | succ depth ih =>
      rw [makeDirs]
      set cut := if (Path.splitLast path).2 = [] then Path.splitLast (Path.splitLast path).1
        else Path.splitLast path
      split
      · have hbefore := ih cut.1
        rcases hmade : d.makeDirs here depth cut.1 with ⟨e | u, d₁⟩
        · rw [hmade] at hbefore
          dsimp only
          split
          · split
            · exact hbefore
            · exact hbefore.trans (hfinish d₁ path)
          · exact hbefore
        · rw [hmade] at hbefore
          dsimp only
          split
          · exact hbefore
          · exact hbefore.trans (hfinish d₁ path)
      · exact hfinish d path

/-- Directories looked for from the end. -/
lemma makeParts_adds (d : Disk) (here : Location) (slashes depth : ℕ) (parts : List Text) :
    Adds d (d.makeParts here slashes depth parts).2 := by
  induction depth generalizing parts with
  | zero => rfl
  | succ depth ih =>
      cases parts with
      | nil => exact adds_finish fun _ => adds_of_ensureDirStrict
      | cons c up =>
          rw [makeParts]
          split
          · have habove := ih up
            rcases hmade : d.makeParts here slashes depth up with ⟨e | u, d₁⟩
            · rwa [hmade] at habove
            · rw [hmade] at habove
              exact habove.trans (adds_finish fun _ => adds_of_ensureDirStrict)
          · exact adds_finish fun _ => adds_of_ensureDirStrict

lemma makePath_adds (d : Disk) (here : Location) (room : ℕ) (p : Path) :
    Adds d (d.makePath here room p).2 :=
  makeParts_adds d here p.slashes room p.parts.reverse

/-! ### Logs -/

lemma get?_origin (hhere : d.get? here = some .dir) (path : Text) :
    d.get? (origin here path) = some .dir := by
  rw [origin]
  split
  · rfl
  · exact hhere

lemma ne_link_of_stride {slash : Bool} {k : Location} {todo : List Text} {n : Node} (ht : d.IsTree)
    (hk : ∀ t, d.get? k ≠ some (.link t))
    (h : d.stride .file slash k todo = .arrived (.found l n)) (t : Text) : n ≠ .link t := by
  fun_induction stride d .file slash k todo with
  | case5 k rest hl hdot ih => exact ih (by simp [ht.tail (not_not.mp hl)]) h
  | _ => simp_all

/-- What a walk for a file comes to is no link, since all are followed. -/
lemma ne_link_of_walk {budget : ℕ} {slash : Bool} {k : Location} {todo : List Text} {n : Node}
    (ht : d.IsTree) (hk : d.get? k = some .dir)
    (h : d.walk .file budget slash k todo = .ok (.found l n)) (t : Text) : n ≠ .link t := by
  fun_induction walk d .file budget slash k todo with
  | case2 budget slash k todo l₀ n₀ hs hdir =>
      obtain ⟨rfl, rfl⟩ : l₀ = l ∧ n₀ = n := by simpa using h
      exact ne_link_of_stride ht (by simp [hk]) hs t
  | case6 slash k todo l₁ t₁ rest hlink budget ih =>
      exact ih (get?_origin (of_stride_link hlink).1 t₁) h
  | _ => simp_all

/-- To open a file is to follow the last link as well. -/
lemma ne_link_of_resolve {n : Node} (ht : d.IsTree) (hhere : d.get? here = some .dir)
    (h : d.resolve here path .file = .ok (.found l n)) (t : Text) : n ≠ .link t := by
  rw [resolve] at h
  split at h
  · cases h
  · split at h
    · cases h
    · exact ne_link_of_walk ht (get?_origin hhere path) h t

/-- **A log is opened where a file stands**, one that was there or a new one. -/
theorem adds_of_openLog (h : d.openLog here path = .ok (d', l)) :
    Adds d d' ∧ (d.IsTree → d.get? here = some .dir → ∃ bs, d'.get? l = some (.file bs)) := by
  rw [openLog, target] at h
  split at h
  · cases h
  cases hres : d.resolve here path .file with
  | error e => simp [hres] at h
  | ok spot =>
      cases spot with
      | vacant k c =>
          obtain ⟨rfl, rfl⟩ : d.put (c :: k) (.file []) = d' ∧ c :: k = l := by
            simpa [hres] using h
          obtain ⟨hfree, hname, hdir⟩ := free_of_resolve hres
          exact ⟨.put hfree hname hdir (.inr rfl),
            fun _ _ => ⟨[], get?_put_self d (by simp) _⟩⟩
      | found k n =>
          have hget := get?_of_resolve_found hres
          cases n with
          | dir => simp [hres] at h
          | faulty => simp [hres] at h
          | file bs =>
              obtain ⟨rfl, rfl⟩ : d = d' ∧ k = l := by simpa [hres] using h
              exact ⟨.refl d, fun _ _ => ⟨bs, hget⟩⟩
          | link t =>
              obtain ⟨rfl, rfl⟩ : d = d' ∧ k = l := by simpa [hres] using h
              refine ⟨.refl d, fun ht hhere => ?_⟩
              exact absurd rfl (ne_link_of_resolve ht hhere hres t)

end TestScaffold.Disk
