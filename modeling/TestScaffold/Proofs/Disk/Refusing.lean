import TestScaffold.Disk.Access
import TestScaffold.Proofs.Path.Names

/-!
How directories and logs are refused.

A text that can be no path is refused before the system sees it. Every other one
is refused by the system, or because it asks for too many directories at once.

* `notMem_absolute`: no code point gets into a path by its spelling, but for
  slashes and dots; so the path of a location can be one if the names in it can
  be (`isPath_absolute`).
* `makePath_failure`, `exists_system_of_openLog` and the lemmas beside them: what can
  go wrong with a text that can be a path.
-/

namespace TestScaffold

/-! ### Characters of a path -/

namespace Path

variable {c : CodePoint}

/-- A path is written with its parts, with slashes, and with a dot if it has no parts. -/
lemma notMem_toText {p : Path} (hslash : c ≠ char '/') (hdot : c ≠ char '.')
    (h : ∀ t ∈ p.parts, c ∉ t) : c ∉ p.toText := by
  rw [toText]
  split
  · simpa using hdot
  · rw [List.mem_append, not_or]
    refine ⟨fun hc => hslash (List.eq_of_mem_replicate hc), ?_⟩
    exact Text.notMem_join (by simpa using hslash) h

lemma notMem_parts {t : Text} (h : c ∉ t) : ∀ p ∈ (ofText t).parts, c ∉ p := fun _ hp hc =>
  h (Text.mem_of_mem_fields (List.mem_filter.mp hp).1 hc)

/-- Dots are removed with parts, and nothing is new. -/
lemma mem_of_mem_collapse {rooted : Bool} {before ps : List Text} {t : Text}
    (h : t ∈ collapse rooted before ps) : t ∈ before ∨ t ∈ ps := by
  fun_induction collapse rooted before ps <;> simp_all <;> tauto

/-- An absolute path has no characters but those of the directory and of the path. -/
lemma notMem_absolute {here path : Text} (hslash : c ≠ char '/') (hdot : c ≠ char '.')
    (hhere : c ∉ here) (hpath : c ∉ path) : c ∉ absolute here path := by
  have hjoin : c ∉ joinTo here path := fun hc =>
    (mem_of_mem_joinTo hc hslash).elim hhere hpath
  refine notMem_toText hslash hdot fun t ht => notMem_parts hjoin t ?_
  simpa using mem_of_mem_collapse ht

/-- A path that is put together from parts can be one if they can be. -/
lemma isPath_toText {p : Path} (h : ∀ t ∈ p.parts, t.isPath) : p.toText.isPath :=
  Text.isPath_of_notMem fun _ hc =>
    notMem_toText (CodePoint.ne_of_fitsPath rfl hc) (CodePoint.ne_of_fitsPath rfl hc) fun t ht =>
      Text.notMem_of_isPath (h t ht) hc

lemma isPath_parts {t : Text} (h : t.isPath) : ∀ p ∈ (ofText t).parts, p.isPath := fun _ hp =>
  Text.isPath_of_notMem fun _ hc => notMem_parts (Text.notMem_of_isPath h hc) _ hp

/-- Two texts that can be paths can be joined to one. -/
lemma isPath_joinTo {dir name : Text} (hdir : dir.isPath) (hname : name.isPath) :
    (joinTo dir name).isPath :=
  Text.isPath_of_notMem fun _ hc hmem =>
    (mem_of_mem_joinTo hmem (CodePoint.ne_of_fitsPath rfl hc)).elim
      (Text.notMem_of_isPath hdir hc) (Text.notMem_of_isPath hname hc)

lemma isPath_absolute {here path : Text} (hhere : here.isPath) (hpath : path.isPath) :
    (absolute here path).isPath :=
  Text.isPath_of_notMem fun _ hc =>
    notMem_absolute (CodePoint.ne_of_fitsPath rfl hc) (CodePoint.ne_of_fitsPath rfl hc)
      (Text.notMem_of_isPath hhere hc) (Text.notMem_of_isPath hpath hc)

end Path

/-! ### Refusals -/

namespace Disk

variable {d : Disk} {here : Location} {path : Text} {e : AccessError}

/-- At what can be a path a directory is refused by the system only. -/
lemma exists_system_of_makeDir (hpath : path.isPath) (h : d.makeDir here path = .error e) :
    ∃ e', e = .system e' := by
  rw [makeDir, if_neg (not_not_intro hpath)] at h
  split at h <;> cases h <;> exact ⟨_, rfl⟩

lemma exists_system_of_isDirStrict (h : d.isDirStrict here path = .error e) :
    ∃ e', e = .system e' := by
  rw [isDirStrict] at h
  split at h
  · cases h
  · split at h <;> cases h
    exact ⟨_, rfl⟩

/-- Where a text can be a path, it is the system that refuses to make a directory there.
-/
lemma exists_system_of_ensureDirStrict (hpath : path.isPath)
    (h : d.ensureDirStrict here path = .error e) : ∃ e', e = .system e' := by
  rw [ensureDirStrict] at h
  split at h
  · cases h
  · next hmake =>
      cases h
      exact exists_system_of_makeDir hpath hmake
  · next hmake =>
      split at h <;> cases h
      · exact exists_system_of_makeDir hpath hmake
      · next hdir => exact exists_system_of_isDirStrict hdir

/-- Directories for a path are refused by the system, or are too many. -/
lemma makeParts_failure {slashes depth : ℕ} {parts : List Text}
    (hparts : ∀ c ∈ parts, c.isPath)
    (h : (d.makeParts here slashes depth parts).1 = .error e) :
    e = .tooDeep ∨ ∃ e', e = .system e' := by
  have htext : ∀ ps : List Text, (∀ c ∈ ps, c.isPath) → (⟨slashes, ps⟩ : Path).toText.isPath :=
    fun ps => Path.isPath_toText (p := ⟨slashes, ps⟩)
  induction depth generalizing parts with
  | zero => exact .inl (Except.error.inj h).symm
  | succ depth ih =>
      cases parts with
      | nil =>
          rw [makeParts] at h
          split at h
          · cases h
          · next hensure =>
              cases h
              exact .inr (exists_system_of_ensureDirStrict (htext [] (by simp)) hensure)
      | cons c up =>
          have hpath := htext (c :: up).reverse fun b hb => hparts b (List.mem_reverse.mp hb)
          rw [makeParts] at h
          split at h
          · split at h
            · next hup =>
                cases h
                exact ih (fun b hb => hparts b (List.mem_cons_of_mem c hb)) (by rw [hup])
            · split at h
              · cases h
              · next hensure =>
                  cases h
                  exact .inr (exists_system_of_ensureDirStrict hpath hensure)
          · split at h
            · cases h
            · next hensure =>
                cases h
                exact .inr (exists_system_of_ensureDirStrict hpath hensure)

/-- So it is with all directories on the way, unless there are too many of them. -/
lemma makePath_failure {room : ℕ} {p : Path} (hparts : ∀ c ∈ p.parts, c.isPath)
    (h : (d.makePath here room p).1 = .error e) : e = .tooDeep ∨ ∃ e', e = .system e' :=
  makeParts_failure (by simpa using hparts) h

/-- What is open for writing is refused by the system only. -/
lemma exists_system_of_fill {refusal? : Location → List UInt8 → Option Refusal} {l : Location}
    {content : List UInt8} (h : (d.fill refusal? l content).1 = .error e) :
    ∃ e', e = .system e' := by
  rw [fill] at h
  split at h
  · cases h
  split at h
  · exact ⟨_, (Except.error.inj h).symm⟩
  · split at h
    · exact ⟨_, (Except.error.inj h).symm⟩
    · cases h

lemma exists_system_of_openLog (hpath : path.isPath) (h : d.openLog here path = .error e) :
    ∃ e', e = .system e' := by
  rw [openLog, if_neg (not_not_intro hpath)] at h
  split at h <;> cases h <;> exact ⟨_, rfl⟩

end Disk

end TestScaffold
